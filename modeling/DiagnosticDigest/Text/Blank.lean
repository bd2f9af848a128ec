/-!
# Blanks around a text

A line is trimmed of the characters with the Unicode property White_Space. They are 25 in ten
ranges, and the set is closed: it does not grow with new versions of the standard.

## Main definitions

* `Text.isBlank`: whether a character is white space.
* `Text.trim`: a text without the white space around it.
-/

namespace DiagnosticDigest.Text

/-- The code points with the property White_Space, as closed ranges. -/
def blankRanges : List (Nat × Nat) :=
  [(0x09, 0x0D), (0x20, 0x20), (0x85, 0x85), (0xA0, 0xA0), (0x1680, 0x1680), (0x2000, 0x200A),
   (0x2028, 0x2029), (0x202F, 0x202F), (0x205F, 0x205F), (0x3000, 0x3000)]

/-- Whether a character is white space. -/
def isBlank (c : Char) : Bool :=
  blankRanges.any fun range => range.1 ≤ c.toNat && c.toNat ≤ range.2

/-- Characters without the blanks on either side. -/
def trimChars (cs : List Char) : List Char :=
  ((cs.dropWhile isBlank).reverse.dropWhile isBlank).reverse

/-- A text without the blanks on either side. -/
def trim (text : String) : String :=
  String.ofList (trimChars text.toList)

end DiagnosticDigest.Text
