import DiagnosticDigest.Json.Numeral
import DiagnosticDigest.Json.Quoted

/-!
# JSON documents

A document is one value with blanks around it. Arrays and objects may be nested only so deep, which
is also what the reading of a value is a recursion on.

## Main definitions

* `Json.value`: the reader of values that are nested at most so deep.
* `Json.parse`: the value of a whole text.
-/

namespace DiagnosticDigest.Json

/-- Reads a literal behind its first letter. A fault lies behind the first letter that is wrong. -/
def readLiteral (meant : Json) : List Char → List Char → Reading Json
  | [], text => .ok (meant, text)
  | _ :: _, [] => .error (.atEnd .endInValue)
  | letter :: letters, c :: rest =>
    if c = letter then readLiteral meant letters rest
    else .error (.past .expectedLiteral (c :: rest))

/-- Reads an array or an object behind its opening bracket or brace, with a reader for the values
inside; without such a reader the nesting is too deep, which is found at the bracket itself. -/
def readNested (inner : Option (Reader Json)) (bracket : Char) (rest : List Char) :
    Reading Json :=
  match inner with
  | none => .error (.past .nestingTooDeep (bracket :: rest))
  | some inner =>
    if bracket = '[' then
      match items inner rest with
      | .error fault => .error fault
      | .ok (read, rest) => .ok (.array read, rest)
    else
      match members (member quotation inner) rest with
      | .error fault => .error fault
      | .ok (read, rest) => .ok (.object (Members.ofPairs read), rest)

/-- Reads a value, with a reader for the values inside of arrays and objects. -/
def readValue (inner : Option (Reader Json)) (text : List Char) : Reading Json :=
  match skipBlanks text with
  | [] => .error (.atEnd .endInValue)
  | c :: rest =>
    if c = 'n' then readLiteral .null ['u', 'l', 'l'] rest
    else if c = 't' then readLiteral (.bool true) ['r', 'u', 'e'] rest
    else if c = 'f' then readLiteral (.bool false) ['a', 'l', 's', 'e'] rest
    else if c = '"' then
      match quotation.run rest with
      | .error fault => .error fault
      | .ok (read, rest) => .ok (.string read, rest)
    else if c = '[' || c = '\x7b' then readNested inner c rest
    else if c = '-' || c.isDigit then
      match numeral.run (c :: rest) with
      | .error fault => .error fault
      | .ok (read, rest) => .ok (.number read, rest)
    else .error (.past .expectedValue (c :: rest))

theorem length_le_of_readLiteral {meant : Json} {letters text rest : List Char} {v : Json}
    (h : readLiteral meant letters text = .ok (v, rest)) : rest.length ≤ text.length := by
  fun_induction readLiteral meant letters text with
  | case1 =>
    obtain ⟨-, rfl⟩ : _ ∧ _ = rest := by simpa using h
    exact Nat.le_refl _
  | case2 => simp at h
  | case3 _ _ _ ih =>
    have := ih h
    simp only [List.length_cons]
    omega
  | case4 => simp at h

theorem length_lt_of_readNested {inner : Option (Reader Json)} {bracket : Char}
    {text rest : List Char} {v : Json} (h : readNested inner bracket text = .ok (v, rest)) :
    rest.length < text.length := by
  unfold readNested at h
  split at h
  · simp at h
  · split at h
    · split at h
      · simp at h
      · rename_i hitems
        have := length_lt_of_items hitems
        obtain ⟨-, rfl⟩ : _ ∧ _ = rest := by simpa using h
        exact this
    · split at h
      · simp at h
      · rename_i hmembers
        have := length_lt_of_members hmembers
        obtain ⟨-, rfl⟩ : _ ∧ _ = rest := by simpa using h
        exact this

theorem length_lt_of_readValue {inner : Option (Reader Json)} {text rest : List Char} {v : Json}
    (h : readValue inner text = .ok (v, rest)) : rest.length < text.length := by
  unfold readValue at h
  split at h
  · simp at h
  · rename_i c tail htext
    have hlt := lt_length_of_skipBlanks htext
    split at h
    · have := length_le_of_readLiteral h
      omega
    split at h
    · have := length_le_of_readLiteral h
      omega
    split at h
    · have := length_le_of_readLiteral h
      omega
    split at h
    · split at h
      · simp at h
      · rename_i hread
        have := quotation.shortens hread
        obtain ⟨-, rfl⟩ : _ ∧ _ = rest := by simpa using h
        omega
    split at h
    · have := length_lt_of_readNested h
      omega
    split at h
    · split at h
      · simp at h
      · rename_i hread
        have := numeral.shortens hread
        obtain ⟨-, rfl⟩ : _ ∧ _ = rest := by simpa using h
        simp only [List.length_cons] at this
        omega
    · simp at h

/-- The reader of values, with a reader for the values inside of arrays and objects. -/
def valueWith (inner : Option (Reader Json)) : Reader Json where
  run := readValue inner
  shortens := length_lt_of_readValue

/-- The reader of values in which arrays and objects are nested at most `depth` deep. -/
def value : Nat → Reader Json
  | 0 => valueWith none
  | depth + 1 => valueWith (some (value depth))

/-- How deep the arrays and objects of a document may be nested. -/
def maxDepth : Nat := 127

/-- Reads a whole text, of which nothing but blanks may be left behind the value. -/
def parseChars (text : List Char) : Except Fault Json :=
  match (value maxDepth).run text with
  | .error fault => .error fault
  | .ok (read, rest) =>
    match skipBlanks rest with
    | [] => .ok read
    | other => .error (.past .trailingText other)

/-- The value of a text, or what is wrong with it. -/
def parse (text : String) : Except Fault Json :=
  parseChars text.toList

end DiagnosticDigest.Json
