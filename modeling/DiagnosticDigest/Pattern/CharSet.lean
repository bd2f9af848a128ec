/-!
# Sets of characters

A pattern describes a character by a set: by ranges, by what stands between brackets, and by
combining such sets. The sets that have names hold ASCII characters only.

## Main definitions

* `CharSet`: sets of characters, as they are written.
* `CharSet.contains`: whether a character is in a set.
* `CharSet.depth`: how deep a set is nested.
* `CharSet.spans`: the code points of a set as ranges.
* `CharSet.named?`: the set with a name.
-/

namespace DiagnosticDigest

/-- How two sets of characters are combined. -/
inductive SetOperation where
  | intersection
  | difference
  | symmetricDifference
  deriving DecidableEq

/-- Whether a character is in a combination, from whether it is in either set. -/
def SetOperation.holds : SetOperation → Bool → Bool → Bool
  | intersection, left, right => left && right
  | difference, left, right => left && !right
  | symmetricDifference, left, right => left != right

/-- A set of characters, as it is written: closed ranges; what is in one of some sets; two sets
combined; all characters but those of a set; those of a set in either case; and what stands between
brackets. -/
inductive CharSet where
  | ranges (ranges : List (Char × Char))
  | union (parts : List CharSet)
  | combined (operation : SetOperation) (left right : CharSet)
  | complement (inside : CharSet)
  | eitherCase (inside : CharSet)
  | bracketed (inside : CharSet)

namespace CharSet

/-- The character with the greatest code point. -/
def lastChar : Char :=
  Char.ofNat 0x10FFFF

/-- The set of one character. -/
def single (c : Char) : CharSet :=
  .ranges [(c, c)]

/-- The set of all characters. -/
def all : CharSet :=
  .ranges [('\x00', lastChar)]

/-- An ASCII letter in its other case; other characters are left as they are. -/
def otherCase (c : Char) : Char :=
  if c.isLower then c.toUpper else c.toLower

/-! ## Membership -/

mutual

/-- Whether a character is in a set. -/
def contains : CharSet → Char → Bool
  | .ranges rs, c => rs.any fun range => range.1 ≤ c && c ≤ range.2
  | .union parts, c => anyContains parts c
  | .combined operation left right, c => operation.holds (left.contains c) (right.contains c)
  | .complement inside, c => !inside.contains c
  | .eitherCase inside, c => inside.contains c || inside.contains (otherCase c)
  | .bracketed inside, c => inside.contains c

/-- Whether a character is in one of some sets. -/
def anyContains : List CharSet → Char → Bool
  | [], _ => false
  | s :: rest, c => s.contains c || anyContains rest c

end

@[simp] theorem contains_all (c : Char) : all.contains c = true := by
  have h : c.toNat < 0x110000 := by
    have := c.valid
    simp only [UInt32.isValidChar, Nat.isValidChar] at this
    simp only [← Char.toNat_val]
    omega
  have hlast : lastChar.toNat = 0x10FFFF := by decide
  have hfirst : ('\x00' : Char).toNat = 0 := by decide
  simp only [all, contains, List.any_cons, List.any_nil, Bool.or_false, Bool.and_eq_true,
    decide_eq_true_eq, Char.le_def, UInt32.le_iff_toNat_le, Char.toNat_val]
  omega

@[simp] theorem contains_single (d c : Char) : (single d).contains c = decide (c = d) := by
  simp only [single, contains, List.any_cons, List.any_nil, Bool.or_false]
  rw [← Bool.decide_and]
  refine decide_eq_decide.mpr ⟨fun h => Char.le_antisymm h.2 h.1, fun h => ?_⟩
  subst h
  exact ⟨Char.le_refl c, Char.le_refl c⟩

@[simp] theorem contains_complement (s : CharSet) (c : Char) :
    (complement s).contains c = !s.contains c := by
  rw [contains]

/-! ## Nesting -/

mutual

/-- How deep a set is nested: a bracket counts, as do two sets combined and several side by side. -/
def depth : CharSet → Nat
  | .ranges _ => 0
  | .union parts => depthOfParts parts
  | .combined _ left right => max left.depth right.depth + 1
  | .complement inside | .eitherCase inside => inside.depth
  | .bracketed inside => inside.depth + 1

/-- How deep sets side by side are nested. -/
def depthOfParts : List CharSet → Nat
  | [] => 0
  | s :: rest => max (s.depth + 1) (depthOfParts rest)

end

/-! ## Spans -/

mutual

/-- The code points at which membership in a set may change. Ignoring the case of ASCII letters, it may
at each of them. -/
def bounds : CharSet → List Nat
  | .ranges rs => rs.flatMap fun range => [range.1.toNat, range.2.toNat + 1]
  | .union parts => boundsOfParts parts
  | .combined _ left right => left.bounds ++ right.bounds
  | .eitherCase inside => List.range 0x80 ++ inside.bounds
  | .complement inside | .bracketed inside => inside.bounds

/-- The code points at which membership in one of some sets may change. -/
def boundsOfParts : List CharSet → List Nat
  | [] => []
  | s :: rest => s.bounds ++ boundsOfParts rest

end

/-- Joins spans that touch, in ascending order, behind a first one. -/
def joinFrom (span : Nat × Nat) : List (Nat × Nat) → List (Nat × Nat)
  | [] => [span]
  | next :: rest =>
    if next.1 ≤ span.2 + 1 then joinFrom (span.1, max span.2 next.2) rest
    else span :: joinFrom next rest

/-- The fewest spans that cover the same code points as some spans, in ascending order. -/
def joinSpans (spans : List (Nat × Nat)) : List (Nat × Nat) :=
  match spans.mergeSort fun a b => a.1 ≤ b.1 with
  | [] => []
  | span :: rest => joinFrom span rest

/-- The code points of the characters in a set, as the fewest closed ranges in ascending order.
Surrogates are no characters. -/
def spans (s : CharSet) : List (Nat × Nat) :=
  let cuts := (0 :: 0xD800 :: 0xE000 :: 0x110000 :: s.bounds).mergeSort fun a b => a ≤ b
  let pieces := (cuts.zip cuts.tail).filter fun piece =>
    piece.1 < piece.2 && decide piece.1.isValidChar && s.contains (Char.ofNat piece.1)
  joinSpans (pieces.map fun piece => (piece.1, piece.2 - 1))

/-! ## Names -/

/-- The sets that have names. -/
def namedSets : List (String × CharSet) :=
  [("alnum", .ranges [('0', '9'), ('A', 'Z'), ('a', 'z')]),
   ("alpha", .ranges [('A', 'Z'), ('a', 'z')]),
   ("ascii", .ranges [('\x00', '\x7f')]),
   ("blank", .ranges [('\t', '\t'), (' ', ' ')]),
   ("cntrl", .ranges [('\x00', '\x1f'), ('\x7f', '\x7f')]),
   ("digit", .ranges [('0', '9')]),
   ("graph", .ranges [('!', '~')]),
   ("lower", .ranges [('a', 'z')]),
   ("print", .ranges [(' ', '~')]),
   ("punct", .ranges [('!', '/'), (':', '@'), ('[', '\x60'), ('\x7b', '~')]),
   ("space", .ranges [('\t', '\r'), (' ', ' ')]),
   ("upper", .ranges [('A', 'Z')]),
   ("word", .ranges [('0', '9'), ('A', 'Z'), ('_', '_'), ('a', 'z')]),
   ("xdigit", .ranges [('0', '9'), ('A', 'F'), ('a', 'f')])]

/-- The set with a name. -/
def named? (name : String) : Option CharSet :=
  namedSets.lookup name

end CharSet

end DiagnosticDigest
