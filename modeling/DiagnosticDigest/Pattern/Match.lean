import DiagnosticDigest.Pattern

/-!
# Where patterns match

A pattern is followed through a text from many places at once. The places of a text, one more than
there are characters, are marked; a pattern takes the marks of where it may start to the marks of where
it may end. So a repetition is followed by following what is repeated until no mark is new.

## Main definitions

* `Pattern.reach`: the places where a pattern ends, from those where it starts.
* `Pattern.occursIn`: whether a pattern matches somewhere in a text.
-/

namespace DiagnosticDigest.Pattern

/-- Marks on the places of a text, in order. -/
abbrev Marks := List Bool

/-- The places marked in either of two. -/
def Marks.join (a b : Marks) : Marks :=
  List.zipWith (fun x y => x || y) a b

/-- Moves marks over the characters of a set. -/
def takeChar (set : CharSet) (text : List Char) (marks : Marks) : Marks :=
  false :: List.zipWith (fun marked c => marked && set.contains c) marks text

/-- Moves marks over any number of characters of a set, by one pass that carries a mark as long as such
characters follow. What is in front is kept in `done`, the latest first. -/
def takeChars (set : CharSet) (carried : Bool) (done : Marks) : List Char → Marks → Marks
  | c :: rest, marked :: marks =>
    let here := marked || carried
    takeChars set (here && set.contains c) (here :: done) rest marks
  | _, marks => done.reverse ++ marks.map fun marked => marked || carried

/-- Keeps the marks on the places that are an edge. -/
def keepEdges (e : Edge) (text : List Char) (marks : Marks) : Marks :=
  List.zipWith (fun marked gap => marked && e.holds gap) marks (Gap.ofChars text)

/-- Follows a step so many times. Once a step changes nothing, no later one does. -/
def followTimes (step : Marks → Marks) : Nat → Marks → Marks
  | 0, marks => marks
  | times + 1, marks =>
    let next := step marks
    if next = marks then marks else followTimes step times next

/-- Follows a step at most so many times. Once a step marks no new place, no later one does. -/
def followUpTo (step : Marks → Marks) : Nat → Marks → Marks
  | 0, marks => marks
  | times + 1, marks =>
    let next := marks.join (step marks)
    if next = marks then marks else followUpTo step times next

/-- Stopping early leaves the result of following a step so many times as it is. -/
theorem followTimes_eq_repeat (step : Marks → Marks) (times : Nat) (marks : Marks) :
    followTimes step times marks = Nat.repeat step times marks := by
  induction times generalizing marks with
  | zero => rfl
  | succ times ih =>
    have hcomm : ∀ n m, Nat.repeat step n (step m) = step (Nat.repeat step n m) := by
      intro n m
      induction n with
      | zero => rfl
      | succ n ihn => simp only [Nat.repeat, ihn]
    simp only [followTimes]
    split
    · rename_i h
      have hfixed : ∀ n, Nat.repeat step n marks = marks := by
        intro n
        induction n with
        | zero => rfl
        | succ n ihn => simp only [Nat.repeat, ihn, h]
      exact (hfixed (times + 1)).symm
    · rw [ih, hcomm]
      rfl

mutual

/-- The places where a pattern ends, from those where it starts. Without a limit to its repetitions,
as many of them matter as there are places; a single character needs no more than one pass. -/
def reach (text : List Char) : Pattern → Marks → Marks
  | .nothing, marks => marks
  | .char _ set, marks => takeChar set text marks
  | .edge e, marks => keepEdges e text marks
  | .scriptWordEdge, marks => marks.map fun _ => false
  | .group _ inside, marks => inside.reach text marks
  | .sequence items, marks => reachBehind text items marks
  | .choice branches, marks => reachByAny text branches marks
  | .repeated least most _ inside, marks =>
    let marks := followTimes (inside.reach text) least marks
    match most, inside with
    | some most, inside => followUpTo (inside.reach text) (most - least) marks
    | none, .char _ set => takeChars set false [] text marks
    | none, inside => followUpTo (inside.reach text) (text.length + 1) marks

/-- The places where patterns one after the other end. -/
def reachBehind (text : List Char) : List Pattern → Marks → Marks
  | [], marks => marks
  | p :: rest, marks => reachBehind text rest (p.reach text marks)

/-- The places where one of some patterns ends. -/
def reachByAny (text : List Char) : List Pattern → Marks → Marks
  | [], marks => marks.map fun _ => false
  | p :: rest, marks => (p.reach text marks).join (reachByAny text rest marks)

end

/-- Whether a pattern matches somewhere in a text. -/
def occursIn (p : Pattern) (text : String) : Bool :=
  let chars := text.toList
  (p.reach chars (List.replicate (chars.length + 1) true)).any fun marked => marked

end DiagnosticDigest.Pattern
