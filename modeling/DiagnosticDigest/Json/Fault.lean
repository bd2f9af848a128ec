import DiagnosticDigest.Text.Utf8

/-!
# Faults in JSON texts

What can be wrong with a text that should be JSON, and where. A fault is placed by how much of the
text it leaves untouched, which a reader knows without keeping count; line and column follow from
the text.

## Main definitions

* `Json.Cause`: the kinds of faults, with their wording.
* `Json.Fault`: a cause and a place.
* `Json.Fault.location`, `Json.Fault.describe`: the place as line and column, and the whole message.
-/

namespace DiagnosticDigest.Json

/-- The kinds of faults. -/
inductive Cause where
  | endInValue
  | endInList
  | endInObject
  | endInString
  | expectedValue
  | expectedLiteral
  | expectedColon
  | expectedListEnd
  | expectedObjectEnd
  | keyNotString
  | trailingComma
  | trailingText
  | invalidNumber
  | numberOutOfRange
  | invalidEscape
  | controlCharacter
  | loneSurrogate
  | unfinishedPair
  | nestingTooDeep
  deriving DecidableEq

namespace Cause

/-- The wording of a cause. -/
def message : Cause → String
  | endInValue => "EOF while parsing a value"
  | endInList => "EOF while parsing a list"
  | endInObject => "EOF while parsing an object"
  | endInString => "EOF while parsing a string"
  | expectedValue => "expected value"
  | expectedLiteral => "expected ident"
  | expectedColon => "expected `:`"
  | expectedListEnd => "expected `,` or `]`"
  | expectedObjectEnd => "expected `,` or `\x7d`"
  | keyNotString => "key must be a string"
  | trailingComma => "trailing comma"
  | trailingText => "trailing characters"
  | invalidNumber => "invalid number"
  | numberOutOfRange => "number out of range"
  | invalidEscape => "invalid escape"
  | controlCharacter => "control character (\\u0000-\\u001F) found while parsing a string"
  | loneSurrogate => "lone leading surrogate in hex escape"
  | unfinishedPair => "unexpected end of hex escape"
  | nestingTooDeep => "recursion limit exceeded"

/-- Whether a cause is that the text ends too early. -/
def isEnd : Cause → Bool
  | endInValue | endInList | endInObject | endInString => true
  | _ => false

end Cause

/-- A fault: its cause, and how many bytes of the text lie behind its place. -/
structure Fault where
  cause : Cause
  left : Nat
  deriving DecidableEq

/-- A line, counted from one, and how many bytes of it lie before a place. -/
structure Location where
  line : Nat
  column : Nat
  deriving DecidableEq

/-- The start of a text. -/
def Location.start : Location :=
  ⟨1, 0⟩

/-- The place one byte further. -/
def Location.next (place : Location) (b : UInt8) : Location :=
  if b = 10 then ⟨place.line + 1, 0⟩ else ⟨place.line, place.column + 1⟩

/-- The place behind some bytes. -/
def Location.after (bytes : List UInt8) : Location :=
  bytes.foldl Location.next Location.start

namespace Fault

/-- A fault right before what is left of a text. -/
def before (cause : Cause) (rest : List Char) : Fault :=
  ⟨cause, Utf8.size rest⟩

/-- A fault behind the first byte of what is left of a text, or at its end. -/
def past (cause : Cause) (rest : List Char) : Fault :=
  ⟨cause, Utf8.size rest - 1⟩

/-- A fault at the end of a text. -/
def atEnd (cause : Cause) : Fault :=
  ⟨cause, 0⟩

/-- How many bytes of a text lie before the place of a fault. -/
def offset (f : Fault) (text : String) : Nat :=
  (Utf8.encode text).length - f.left

/-- The line and the column of a fault. -/
def location (f : Fault) (text : String) : Location :=
  Location.after ((Utf8.encode text).take (f.offset text))

/-- The message on a fault in a text. -/
def describe (f : Fault) (text : String) : String :=
  let place := f.location text
  f.cause.message ++ " at line " ++ toString place.line ++ " column " ++ toString place.column

end Fault

end DiagnosticDigest.Json
