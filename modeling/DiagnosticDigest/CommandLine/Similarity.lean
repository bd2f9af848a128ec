/-!
# Similarity of words

How much two words resemble each other, as a number between zero and one. Letters count as common if
they stand at nearly the same place in both; common letters in another order count less.

## Main definitions

* `Similarity.commonLetters`: the letters of a word that another word has nearly at the same place.
* `Similarity.degree`: how similar two words are.
-/

namespace DiagnosticDigest.Similarity

/-- Marks the first unmarked letter that equals `c` at one of the places from `low` up to but not
including `high`; `here` is the place of the first letter of the list. -/
def mark? (c : Char) (low high : Nat) (here : Nat) :
    List (Char × Bool) → Option (List (Char × Bool))
  | [] => none
  | (letter, taken) :: rest =>
    if low ≤ here ∧ here < high ∧ letter = c ∧ taken = false then some ((letter, true) :: rest)
    else (mark? c low high (here + 1) rest).map ((letter, taken) :: ·)

/-- The letters of the first word, from place `here` on, that find a partner in the second word at
most `reach` places away, and the second word with the partners marked. -/
def commonLetters (reach : Nat) (here : Nat) :
    List Char → List (Char × Bool) → List Char × List (Char × Bool)
  | [], marked => ([], marked)
  | c :: rest, marked =>
    match mark? c (here - reach) (here + reach + 1) 0 marked with
    | none => commonLetters reach (here + 1) rest marked
    | some marked =>
      let (common, marked) := commonLetters reach (here + 1) rest marked
      (c :: common, marked)

/-- How many places two lists of letters differ at. -/
def differences : List Char → List Char → Nat
  | a :: as, b :: bs => (if a = b then 0 else 1) + differences as bs
  | _, _ => 0

/-- How similar two words are: the mean of the shares of common letters in each word and of
the share of common letters that stand in order. -/
def degree (a b : List Char) : Float :=
  if a.isEmpty && b.isEmpty then 1
  else if a.isEmpty || b.isEmpty then 0
  else
    let reach := max a.length b.length / 2 - 1
    let (common, marked) := commonLetters reach 0 a (b.map (·, false))
    let partners := (marked.filter (·.2)).map (·.1)
    let swaps := differences common partners / 2
    let count := Float.ofNat common.length
    if common.isEmpty then 0
    else
      (count / Float.ofNat a.length + count / Float.ofNat b.length +
        Float.ofNat (common.length - swaps) / count) / 3

end DiagnosticDigest.Similarity
