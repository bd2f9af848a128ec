import DiagnosticDigest.Json.Document

/-!
# Written JSON

The grammar of JSON texts, without a reader. A text is the leaves of a tree, from left to right, and
a tree can only be built as the grammar allows: blanks are of four kinds, a number has no leading
zero, a string holds no raw control character and only known escapes, and commas stand between items
and nowhere else. What the grammar leaves open is said of a tree: how deep it is nested, whether the
surrogates in its strings are paired, whether its numbers are in range.

## Main definitions

* `Written.Blanks`, `Written.Piece`, `Written.NumberText` — the parts of a text that hold no others.
* `Written.Tree` — a value as it is written; `Tree.text`, `Tree.depth`, `Tree.tokens`.
* `Written.Paired`, `Written.NumberText.InRange`, `Written.Token.Admitted` — what a reader asks of a
  string and of a number.
* `Written.Tree.value` — the value that a tree stands for.
-/

namespace DiagnosticDigest.Json.Written

/-! ## Blanks -/

/-- White space between tokens: spaces, tabs, line feeds and carriage returns. -/
structure Blanks where
  text : List Char
  blank : ∀ c ∈ text, c = ' ' ∨ c = '\t' ∨ c = '\n' ∨ c = '\r'

/-! ## Strings -/

/-- A hexadecimal digit, in either case. -/
structure HexDigit where
  char : Char
  isHex : ('0' ≤ char ∧ char ≤ '9') ∨ ('a' ≤ char ∧ char ≤ 'f') ∨ ('A' ≤ char ∧ char ≤ 'F')

/-- What a hexadecimal digit stands for. -/
def HexDigit.value (d : HexDigit) : Nat :=
  (hexDigit? d.char).getD 0

/-- The eight characters that have an escape of one letter. -/
inductive Escape where
  | quote | backslash | slash | backspace | formFeed | lineFeed | carriageReturn | tab

/-- The letter behind the backslash. -/
def Escape.letter : Escape → Char
  | quote => '"'
  | backslash => '\\'
  | slash => '/'
  | backspace => 'b'
  | formFeed => 'f'
  | lineFeed => 'n'
  | carriageReturn => 'r'
  | tab => 't'

/-- The character that is meant. -/
def Escape.meaning : Escape → Char
  | quote => '"'
  | backslash => '\\'
  | slash => '/'
  | backspace => '\x08'
  | formFeed => '\x0c'
  | lineFeed => '\n'
  | carriageReturn => '\r'
  | tab => '\t'

/-- The four digits of an escape by number. -/
structure Code where
  first : HexDigit
  second : HexDigit
  third : HexDigit
  fourth : HexDigit

namespace Code

/-- The digits as they are written. -/
def text (x : Code) : List Char :=
  [x.first.char, x.second.char, x.third.char, x.fourth.char]

/-- The number that the digits make. -/
def number (x : Code) : Nat :=
  ((x.first.value * 16 + x.second.value) * 16 + x.third.value) * 16 + x.fourth.value

end Code

/-- A piece of a string: a character that stands for itself, or an escape. -/
inductive Piece where
  | plain (c : Char) (h : c ≠ '"' ∧ c ≠ '\\' ∧ 0x20 ≤ c.toNat)
  | simple (e : Escape)
  | code (x : Code)

namespace Piece

/-- A piece as it is written. -/
def text : Piece → List Char
  | plain c _ => [c]
  | simple e => ['\\', e.letter]
  | code x => '\\' :: 'u' :: x.text

/-- An escape of the first half of a surrogate pair. -/
def Leads (p : Piece) : Prop :=
  ∃ x, p = code x ∧ isLeading x.number = true

/-- An escape of the second half of a surrogate pair. -/
def Trails (p : Piece) : Prop :=
  ∃ x, p = code x ∧ isTrailing x.number = true

end Piece

/-- The pieces of a string as they are written, without the quotes. -/
def piecesText (pieces : List Piece) : List Char :=
  pieces.flatMap Piece.text

/-- Every escape of a surrogate is half of a pair: a leading one stands right before a trailing one,
and a trailing one right behind a leading one. -/
def Paired (pieces : List Piece) : Prop :=
  ∀ before piece after, pieces = before ++ piece :: after →
    (piece.Leads → ∃ next ∈ after.head?, next.Trails) ∧
      (piece.Trails → ∃ last ∈ before.getLast?, last.Leads)

/-- The characters that pieces stand for; two escapes that form a pair are one character. -/
def meaning : List Piece → List Char
  | [] => []
  | .plain c _ :: rest => c :: meaning rest
  | .simple e :: rest => e.meaning :: meaning rest
  | .code x :: .code y :: rest =>
    if isLeading x.number then ofPair x.number y.number :: meaning rest
    else Char.ofNat x.number :: meaning (.code y :: rest)
  | .code x :: rest => Char.ofNat x.number :: meaning rest

/-! ## Numbers -/

/-- A decimal digit as it is written. -/
def digitChar (d : Fin 10) : Char :=
  Char.ofNat (0x30 + d.val)

/-- Decimal digits as they are written. -/
def digitsText (digits : List (Fin 10)) : List Char :=
  digits.map digitChar

/-- The exponent of a number: its letter in either case, a sign or none, and digits. -/
structure Exponent where
  capital : Bool
  sign : Option Bool
  digits : List (Fin 10)
  digits_ne_nil : digits ≠ []

/-- An exponent as it is written. -/
def Exponent.text (e : Exponent) : List Char :=
  let sign :=
    match e.sign with
    | none => []
    | some false => ['+']
    | some true => ['-']
  (if e.capital then 'E' else 'e') :: sign ++ digitsText e.digits

/-- Whether an exponent is negative, and its digits. -/
def Exponent.power (e : Exponent) : Bool × List Nat :=
  (e.sign == some true, e.digits.map Fin.val)

/-- A number as it is written. It has digits before the point, of which the first is a zero only if
it is the only one; without a point the fraction has no digits. -/
structure NumberText where
  negative : Bool
  whole : List (Fin 10)
  fraction : List (Fin 10)
  exponent : Option Exponent
  whole_ne_nil : whole ≠ []
  no_leading_zero : ∀ more, whole = 0 :: more → more = []

namespace NumberText

/-- The point with the digits behind it, or nothing if there are none. -/
def fractionText : List (Fin 10) → List Char
  | [] => []
  | digits => '.' :: digitsText digits

/-- The exponent, or nothing if there is none. -/
def exponentText : Option Exponent → List Char
  | none => []
  | some e => e.text

/-- A number without its sign. -/
def unsignedText (n : NumberText) : List Char :=
  digitsText n.whole ++ fractionText n.fraction ++ exponentText n.exponent

/-- A number as it is written. -/
def text (n : NumberText) : List Char :=
  if n.negative then '-' :: n.unsignedText else n.unsignedText

/-- The parts of a number that count for its value. -/
def numeral (n : NumberText) : Numeral where
  negative := n.negative
  whole := n.whole.map Fin.val
  fraction := n.fraction.map Fin.val
  exponent := n.exponent.map Exponent.power

/-- A number that its conversion gives a value. -/
def InRange (n : NumberText) : Prop :=
  ∃ v, n.numeral.value = .ok v

/-- The value of a number; it is only asked for where there is one. -/
def value (n : NumberText) : Json.Number :=
  match n.numeral.value with
  | .ok v => v
  | .error _ => .integer 0

end NumberText

/-! ## Trees -/

/-- An item with the blanks around it. -/
structure Padded (α : Type) where
  before : Blanks
  held : α
  after : Blanks

/-- A member: its key, with the blanks before it and those before the colon, and its value. -/
structure Member (α : Type) where
  before : Blanks
  key : List Piece
  between : Blanks
  value : Padded α

/-- A value as it is written. Brackets that hold no items may hold blanks; else they hold a first
item and those behind it. -/
inductive Tree where
  | null
  | bool (b : Bool)
  | number (n : NumberText)
  | string (pieces : List Piece)
  | emptyArray (inside : Blanks)
  | array (first : Padded Tree) (more : List (Padded Tree))
  | emptyObject (inside : Blanks)
  | object (first : Member Tree) (more : List (Member Tree))

/-- A string with its quotes. -/
def stringText (pieces : List Piece) : List Char :=
  '"' :: piecesText pieces ++ ['"']

mutual

/-- A value as it is written. -/
def Tree.text : Tree → List Char
  | .null => ['n', 'u', 'l', 'l']
  | .bool true => ['t', 'r', 'u', 'e']
  | .bool false => ['f', 'a', 'l', 's', 'e']
  | .number n => n.text
  | .string pieces => stringText pieces
  | .emptyArray inside => '[' :: inside.text ++ [']']
  | .array first more => '[' :: itemText first ++ itemsText more ++ [']']
  | .emptyObject inside => '\x7b' :: inside.text ++ ['\x7d']
  | .object first more => '\x7b' :: memberText first ++ membersText more ++ ['\x7d']

/-- An item with its blanks. -/
def itemText : Padded Tree → List Char
  | ⟨before, held, after⟩ => before.text ++ held.text ++ after.text

/-- The items behind the first one, each behind a comma. -/
def itemsText : List (Padded Tree) → List Char
  | [] => []
  | item :: more => ',' :: itemText item ++ itemsText more

/-- A member with its blanks. -/
def memberText : Member Tree → List Char
  | ⟨before, key, between, value⟩ =>
    before.text ++ stringText key ++ between.text ++ ':' :: itemText value

/-- The members behind the first one, each behind a comma. -/
def membersText : List (Member Tree) → List Char
  | [] => []
  | member :: more => ',' :: memberText member ++ membersText more

end

mutual

/-- How deep arrays and objects are nested. -/
def Tree.depth : Tree → Nat
  | .array ⟨_, held, _⟩ more => max held.depth (itemsDepth more) + 1
  | .object ⟨_, _, _, ⟨_, held, _⟩⟩ more => max held.depth (membersDepth more) + 1
  | .emptyArray _ | .emptyObject _ => 1
  | _ => 0

/-- How deep the deepest of some items is nested. -/
def itemsDepth : List (Padded Tree) → Nat
  | [] => 0
  | ⟨_, held, _⟩ :: more => max held.depth (itemsDepth more)

/-- How deep the value of the deepest of some members is nested. -/
def membersDepth : List (Member Tree) → Nat
  | [] => 0
  | ⟨_, _, _, ⟨_, held, _⟩⟩ :: more => max held.depth (membersDepth more)

end

/-- A part of a text that a reader asks more of than the grammar does. -/
inductive Token where
  | string (pieces : List Piece)
  | number (n : NumberText)

/-- A string in which surrogates are paired, or a number in range. -/
def Token.Admitted : Token → Prop
  | string pieces => Paired pieces
  | number n => n.InRange

mutual

/-- The strings and numbers of a tree, keys included. -/
def Tree.tokens : Tree → List Token
  | .number n => [.number n]
  | .string pieces => [.string pieces]
  | .array ⟨_, held, _⟩ more => held.tokens ++ itemsTokens more
  | .object ⟨_, key, _, ⟨_, held, _⟩⟩ more =>
    .string key :: held.tokens ++ membersTokens more
  | _ => []

/-- The strings and numbers of items. -/
def itemsTokens : List (Padded Tree) → List Token
  | [] => []
  | ⟨_, held, _⟩ :: more => held.tokens ++ itemsTokens more

/-- The strings and numbers of members. -/
def membersTokens : List (Member Tree) → List Token
  | [] => []
  | ⟨_, key, _, ⟨_, held, _⟩⟩ :: more => .string key :: held.tokens ++ membersTokens more

end

mutual

/-- The value that a tree stands for. -/
def Tree.value : Tree → Json
  | .null => .null
  | .bool b => .bool b
  | .number n => .number n.value
  | .string pieces => .string (String.ofList (meaning pieces))
  | .emptyArray _ => .array []
  | .array ⟨_, held, _⟩ more => .array (held.value :: itemsValues more)
  | .emptyObject _ => .object []
  | .object ⟨_, key, _, ⟨_, held, _⟩⟩ more =>
    .object (Members.ofPairs
      ((String.ofList (meaning key), held.value) :: membersValues more))

/-- The values of items. -/
def itemsValues : List (Padded Tree) → List Json
  | [] => []
  | ⟨_, held, _⟩ :: more => held.value :: itemsValues more

/-- The keys and values of members, as they follow each other in the text. -/
def membersValues : List (Member Tree) → List (String × Json)
  | [] => []
  | ⟨_, key, _, ⟨_, held, _⟩⟩ :: more =>
    (String.ofList (meaning key), held.value) :: membersValues more

end

end DiagnosticDigest.Json.Written
