/-!
# Splitting texts

## Main definitions

* `Text.split`: the parts of a text between the places where a character stands.
-/

namespace DiagnosticDigest.Text

/-- The parts of a text between the places where a character stands; without such a place, the text
itself. -/
def splitChars (separator : Char) : List Char → List (List Char)
  | [] => [[]]
  | c :: rest =>
    match splitChars separator rest with
    | [] => [[c]]
    | part :: more => if c = separator then [] :: part :: more else (c :: part) :: more

/-- The parts of a text between the places where a character stands. -/
def split (separator : Char) (text : String) : List String :=
  (splitChars separator text.toList).map String.ofList

end DiagnosticDigest.Text
