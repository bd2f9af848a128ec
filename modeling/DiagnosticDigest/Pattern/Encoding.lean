/-!
# Encoded characters by ranges of bytes

A machine that reads bytes takes a character of a range byte by byte. The encodings of the characters
of a range are cut into sequences of ranges of bytes, such that every choice of a byte from each range
of a sequence encodes a character.

## Main definitions

* `Encoding.sequences`: the sequences for a range of characters.
* `Encoding.prefixes`: the beginnings of sequences.
* `Encoding.branches`, `Encoding.suffixes`: what is still to come behind one range, and behind any.
-/

namespace DiagnosticDigest.Encoding

/-- A closed range of bytes. -/
abbrev ByteRange := UInt8 × UInt8

/-- The last code point before which a range of code points is cut: where the length of encodings
changes, or where one byte has to run through all its values before the byte in front of it changes. -/
def cut? (low high : Nat) : Option Nat :=
  match [0x7F, 0x7FF, 0xFFFF].find? fun last => low ≤ last && last < high with
  | some last => some last
  | none =>
    if high ≤ 0x7F then none
    else
      [0x40, 0x1000, 0x40000].findSome? fun block =>
        if low / block = high / block then none
        else if low % block ≠ 0 then some (low - low % block + block - 1)
        else if high % block ≠ block - 1 then some (high - high % block - 1)
        else none

/-- The sequences for the characters of a range of code points without surrogates. -/
def sequences (low high : Nat) : List (List ByteRange) :=
  let whole := (String.utf8EncodeChar (Char.ofNat low)).zip (String.utf8EncodeChar (Char.ofNat high))
  match cut? low high with
  | none => [whole]
  | some last =>
    if _h : low ≤ last ∧ last < high then sequences low last ++ sequences (last + 1) high
    else [whole]
termination_by high - low

/-- The beginnings of sequences that hold at least one range, each once. -/
def prefixes (words : List (List ByteRange)) : List (List ByteRange) :=
  (words.flatMap fun word => (List.range word.length).map fun i => word.take (i + 1)).eraseDups

/-- What follows the first items of words, for each first item once. -/
def branches {α : Type} [DecidableEq α] (words : List (List α)) : List (List (List α)) :=
  (words.filterMap List.head?).eraseDups.map fun first =>
    words.filterMap fun word => if word.head? = some first then some word.tail else none

/-- What may still come at each point on the way through sequences of at most `length` ranges, before
their ends, each once. -/
def suffixes (length : Nat) (words : List (List ByteRange)) : List (List (List ByteRange)) :=
  match length with
  | 0 => []
  | length + 1 =>
    if words.all List.isEmpty then []
    else (words :: (branches words).flatMap (suffixes length)).eraseDups

end DiagnosticDigest.Encoding
