import DiagnosticDigest.Pattern

/-!
# Outlines of patterns

Before a pattern is laid out it is brought into a simpler form that matches the same texts: characters
one after the other are one text, a choice between characters is one set, nothing is nested that need
not be, and what branches start with in common is taken in front of them.

## Main definitions

* `Outline`: the simpler form.
* `Outline.times`, `Outline.inSequence`, `Outline.inChoice`: how outlines are put together.
* `Pattern.outline`: the outline of a pattern.
* `Outline.asksForScripts`: whether it matters what the words of all scripts are.
-/

namespace DiagnosticDigest

/-- The simpler form of a pattern: nothing; a text; a character of a set, by its spans; an edge; an
edge of a word in any script; a numbered group; outlines one after the other; a choice; and a
repetition. -/
inductive Outline where
  | nothing
  | text (chars : List Char)
  | set (ascii : Bool) (spans : List (Nat × Nat))
  | edge (e : Edge)
  | scriptWordEdge
  | group (number : Nat) (inside : Outline)
  | sequence (items : List Outline)
  | choice (branches : List Outline)
  | repeated (least : Nat) (most : Option Nat) (greedy : Bool) (inside : Outline)

namespace Outline

mutual

/-- Whether two outlines are the same. -/
def same : Outline → Outline → Bool
  | .nothing, .nothing => true
  | .text a, .text b => a == b
  | .set ascii a, .set ascii' b => ascii == ascii' && a == b
  | .edge a, .edge b => a == b
  | .scriptWordEdge, .scriptWordEdge => true
  | .group n a, .group n' b => n == n' && a.same b
  | .sequence a, .sequence b => allSame a b
  | .choice a, .choice b => allSame a b
  | .repeated least most greedy a, .repeated least' most' greedy' b =>
    least == least' && most == most' && greedy == greedy' && a.same b
  | _, _ => false

/-- Whether two lists of outlines are the same. -/
def allSame : List Outline → List Outline → Bool
  | [], [] => true
  | a :: as, b :: bs => a.same b && allSame as bs
  | _, _ => false

end

/-! ## What outlines take -/

mutual

/-- Whether an outline takes no characters. -/
def isHollow : Outline → Bool
  | .nothing | .edge _ | .scriptWordEdge => true
  | .text _ | .set _ _ => false
  | .group _ inside | .repeated _ _ _ inside => inside.isHollow
  | .sequence items => allHollow items
  | .choice branches => allHollow branches

/-- Whether outlines take no characters. -/
def allHollow : List Outline → Bool
  | [] => true
  | o :: rest => o.isHollow && allHollow rest

end

mutual

/-- The fewest characters that an outline takes, unless it is seen to have a part that matches
nothing. -/
def least? : Outline → Option Nat
  | .nothing | .edge _ | .scriptWordEdge => some 0
  | .text chars => some chars.length
  | .set _ spans => if spans.isEmpty then none else some 1
  | .group _ inside => inside.least?
  | .sequence items => leastOfAll? items
  | .choice branches => leastOfAny? branches
  | .repeated least _ _ inside => inside.least?.map (· * least)

/-- The fewest characters that outlines one after the other take. -/
def leastOfAll? : List Outline → Option Nat
  | [] => some 0
  | o :: rest =>
    match o.least?, leastOfAll? rest with
    | some a, some b => some (a + b)
    | _, _ => none

/-- The fewest characters that one of some outlines takes. -/
def leastOfAny? : List Outline → Option Nat
  | [] => none
  | [o] => o.least?
  | o :: rest =>
    match o.least?, leastOfAny? rest with
    | some a, some b => some (min a b)
    | _, _ => none

end

mutual

/-- Whether an outline asks for an edge of a word in any script. -/
def asksForScripts : Outline → Bool
  | .scriptWordEdge => true
  | .nothing | .edge _ | .text _ | .set _ _ => false
  | .group _ inside | .repeated _ _ _ inside => inside.asksForScripts
  | .sequence items => anyAsksForScripts items
  | .choice branches => anyAsksForScripts branches

/-- Whether one of some outlines asks for an edge of a word in any script. -/
def anyAsksForScripts : List Outline → Bool
  | [] => false
  | o :: rest => o.asksForScripts || anyAsksForScripts rest

end

/-! ## Sets and repetitions -/

/-- The outline of a set: a text if it holds one character. The set that holds none is about ASCII. -/
def ofSpans (ascii : Bool) (spans : List (Nat × Nat)) : Outline :=
  match spans with
  | [] => .set true []
  | [(first, last)] => if first = last then .text [Char.ofNat first] else .set ascii spans
  | _ => .set ascii spans

/-- Repeats an outline. What takes no characters is not repeated more than once. -/
def times (least : Nat) (most : Option Nat) (greedy : Bool) (inside : Outline) : Outline :=
  let hollow := inside.isHollow
  let least := if hollow then min least 1 else least
  let most := if hollow then some (min (most.getD 1) 1) else most
  if least = 0 ∧ most = some 0 then .nothing
  else if least = 1 ∧ most = some 1 then inside
  else .repeated least most greedy inside

/-! ## Sequences -/

/-- The outlines of which a sequence is made, when they are put among others. -/
def parts : Outline → List Outline
  | .nothing => []
  | .sequence items => items
  | o => [o]

/-- Puts an outline in front of others, joining texts. -/
def prepend (o : Outline) (rest : List Outline) : List Outline :=
  match o, rest with
  | .text a, .text b :: rest => .text (a ++ b) :: rest
  | o, rest => o :: rest

/-- Puts outlines one after the other. -/
def inSequence (items : List Outline) : Outline :=
  match (items.flatMap parts).foldr prepend [] with
  | [] => .nothing
  | [o] => o
  | items => .sequence items

/-! ## Choices -/

/-- The branches of which a choice is made, when they are put among others. -/
def branches : Outline → List Outline
  | .choice branches => branches
  | o => [o]

/-- The character of a text that has only one. -/
def char? : Outline → Option Char
  | .text [c] => some c
  | _ => none

/-- The spans of a set. -/
def spans? : Outline → Option (List (Nat × Nat))
  | .set _ spans => some spans
  | _ => none

/-- Brings together branches that are not choices themselves: if all are characters, or all are sets,
they are one set. -/
def ofBranches (branches : List Outline) : Outline :=
  match branches with
  | [] => .set true []
  | [o] => o
  | branches =>
    match branches.mapM char? with
    | some chars => ofSpans false (CharSet.joinSpans (chars.map fun c => (c.toNat, c.toNat)))
    | none =>
      match branches.mapM spans? with
      | some spans => ofSpans false (CharSet.joinSpans spans.flatten)
      | none => .choice branches

/-- The items that a branch consists of, if it is a sequence. -/
def items? : Outline → Option (List Outline)
  | .sequence items => some items
  | _ => none

/-- How many items two lists start with in common. -/
def commonLength : List Outline → List Outline → Nat
  | a :: as, b :: bs => if a.same b then commonLength as bs + 1 else 0
  | _, _ => 0

/-- Makes a choice. If all its branches are sequences that start with the same items, these are taken
in front of the choice. -/
def inChoice (branches : List Outline) : Outline :=
  let branches := branches.flatMap Outline.branches
  match ofBranches branches with
  | .choice branches =>
    match branches.mapM items? with
    | some (first :: others) =>
      let common := others.foldl (fun n items => min n (commonLength first items)) first.length
      if common = 0 then .choice branches
      else
        let rests := (first :: others).map fun items => inSequence (items.drop common)
        inSequence (first.take common ++ [ofBranches (rests.flatMap Outline.branches)])
    | _ => .choice branches
  | o => o

end Outline

/-! ## Outlines of patterns -/

namespace Pattern

mutual

/-- The outline of a pattern. -/
def outline : Pattern → Outline
  | .nothing => .nothing
  | .char ascii set => .ofSpans ascii set.spans
  | .edge e => .edge e
  | .scriptWordEdge => .scriptWordEdge
  | .group none inside => inside.outline
  | .group (some number) inside => .group number inside.outline
  | .sequence items => .inSequence (outlines items)
  | .choice branches => .inChoice (outlines branches)
  | .repeated least most greedy inside => .times least most greedy inside.outline

/-- The outlines of patterns. -/
def outlines : List Pattern → List Outline
  | [] => []
  | p :: rest => p.outline :: outlines rest

end

end Pattern

end DiagnosticDigest
