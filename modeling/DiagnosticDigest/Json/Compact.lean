import DiagnosticDigest.Decimal.Layout
import DiagnosticDigest.Json.Quoted
import DiagnosticDigest.Json.Value

/-!
# Compact JSON

The text of a value on one line and without blanks. Members stand in the order in which an object
keeps them, which is the order of their keys' bytes.

## Main definitions

* `Json.doubleStyle`: which doubles are written positionally.
* `Json.compactChars`, `Json.compact`: the text of a value.
-/

namespace DiagnosticDigest.Json

/-- Doubles from `10 ^ -5` up to `10 ^ 16` are written positionally, all others with an exponent. -/
def doubleStyle : Decimal.Style where
  plainFrom := -5
  plainBelow := 16

/-- The text of a number; the format has none for a double that is not finite. -/
def numberText : Number → List Char
  | .integer z => Decimal.writeInteger z
  | .double x => (Decimal.writeDouble? doubleStyle x).getD ['n', 'u', 'l', 'l']

mutual

/-- The characters of the text of a value. -/
def compactChars : Json → List Char
  | null => ['n', 'u', 'l', 'l']
  | bool true => ['t', 'r', 'u', 'e']
  | bool false => ['f', 'a', 'l', 's', 'e']
  | number n => numberText n
  | string text => quotedText text
  | array [] => ['[', ']']
  | array (first :: more) => '[' :: compactChars first ++ compactItems more
  | object [] => ['\x7b', '\x7d']
  | object ((key, held) :: more) =>
    '\x7b' :: quotedText key ++ ':' :: compactChars held ++ compactMembers more

/-- The items behind the first one, and the closing bracket. -/
def compactItems : List Json → List Char
  | [] => [']']
  | item :: more => ',' :: compactChars item ++ compactItems more

/-- The members behind the first one, and the closing brace. -/
def compactMembers : List (String × Json) → List Char
  | [] => ['\x7d']
  | (key, held) :: more =>
    ',' :: quotedText key ++ ':' :: compactChars held ++ compactMembers more

end

/-- The text of a value. -/
def compact (v : Json) : String :=
  String.ofList (compactChars v)

/-- The text of a value where text is asked for: a string stands for itself, any other value for its
compact form. -/
def asText : Json → String
  | string text => text
  | other => compact other

end DiagnosticDigest.Json
