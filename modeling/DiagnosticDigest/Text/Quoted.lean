import DiagnosticDigest.Text.Hidden

/-!
# Quoted text

Messages quote a text that a reader should be able to tell from its surroundings: between double
quotes, with whatever does not print by itself written as an escape.

## Main definitions

* `Text.quoted`: a text between double quotes.
-/

namespace DiagnosticDigest.Text

/-- The letter of a character that has an escape of its own. -/
def escapeLetter? (c : Char) : Option Char :=
  if c = '\x00' then some '0'
  else if c = '\t' then some 't'
  else if c = '\r' then some 'r'
  else if c = '\n' then some 'n'
  else if c = '\\' then some '\\'
  else if c = '"' then some '"'
  else none

/-- A character as it stands in a quoted text: by its letter, by its code point in hexadecimal
between braces, or as itself. -/
def quotedChar (c : Char) : List Char :=
  match escapeLetter? c with
  | some letter => ['\\', letter]
  | none =>
    if isHidden c then '\\' :: 'u' :: '\x7b' :: Nat.toDigits 16 c.toNat ++ ['\x7d']
    else [c]

/-- A text between double quotes. -/
def quoted (text : String) : String :=
  String.ofList ('"' :: text.toList.flatMap quotedChar ++ ['"'])

end DiagnosticDigest.Text
