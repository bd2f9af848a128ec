import DiagnosticDigest.Json.Quoted
import DiagnosticDigest.Pattern
import DiagnosticDigest.Text.Blank
import DiagnosticDigest.Text.Letter

/-!
# Tokens of patterns

A written pattern is cut into tokens from left to right: items that stand by themselves, signs that
put items together, and, between brackets, the parts of sets. What a character means depends on the
flags that are on where it stands, and on whether that is between brackets.

Only ASCII words, digits, blanks and cases are known. As long as a pattern is about all scripts, which
it is unless the flag `u` is turned off, it must not ask for any of those. A pattern that is about
ASCII must not ask for what reaches beyond it, single characters apart.

## Main definitions

* `Pattern.Flags`: the flags of a pattern.
* `Pattern.Token`: tokens.
* `Pattern.Scope`: what the meaning of a character depends on, and `Pattern.Scope.next`, one token.
* `Pattern.tokens?`: the tokens of a written pattern.
-/

namespace DiagnosticDigest.Pattern

/-! ## Flags -/

/-- The flags of a pattern: whether cases are ignored; whether lines have edges of their own, and end
at carriage returns too; whether the dot takes line ends; whether repetitions prefer fewer times;
whether the pattern is about all scripts; and whether blanks and comments in it are passed over. -/
structure Flags where
  eitherCase : Bool
  byLine : Bool
  wideLines : Bool
  dotTakesAll : Bool
  reluctant : Bool
  allScripts : Bool
  spaced : Bool

namespace Flags

/-- The flags at the start of a pattern. -/
def start : Flags :=
  ⟨false, false, false, false, false, true, false⟩

/-- Turns a flag on or off, by its letter. -/
def turn? (f : Flags) (letter : Char) (on : Bool) : Option Flags :=
  if letter = 'i' then some { f with eitherCase := on }
  else if letter = 'm' then some { f with byLine := on }
  else if letter = 'R' then some { f with wideLines := on }
  else if letter = 's' then some { f with dotTakesAll := on }
  else if letter = 'u' then some { f with allScripts := on }
  else if letter = 'x' then some { f with spaced := on }
  else if letter = 'U' then some { f with reluctant := on }
  else none

/-- Turns flags on by their letters, and off behind a dash. No letter is repeated, and letters follow
the dash. -/
def turnAll? (f : Flags) (on : Bool) (before : List Char) : List Char → Option Flags
  | [] => some f
  | letter :: rest =>
    if letter ∈ before then none
    else if letter = '-' then
      if rest = [] then none else turnAll? f false (letter :: before) rest
    else
      match f.turn? letter on with
      | none => none
      | some f => turnAll? f on (letter :: before) rest

/-- A text without the blanks and comments at its front. A comment starts at a hash sign and ends with
its line. -/
def skipFrom (inComment : Bool) : List Char → List Char
  | [] => []
  | c :: rest =>
    if inComment then skipFrom (c ≠ '\n') rest
    else if Text.isBlank c then skipFrom false rest
    else if c = '#' then skipFrom true rest
    else c :: rest

/-- A text without what the flags pass over at its front. -/
def skip (f : Flags) (text : List Char) : List Char :=
  if f.spaced then skipFrom false text else text

/-- The character that follows a dash between brackets, behind blanks and one hash sign that the flags
pass over. -/
def peek (f : Flags) (text : List Char) : Option Char :=
  if f.spaced then
    match text.dropWhile Text.isBlank with
    | '#' :: rest => (rest.dropWhile Text.isBlank).head?
    | other => other.head?
  else text.head?

/-- What stands before a closing brace, without what the flags pass over, and what is behind it. -/
def braced (f : Flags) (inComment : Bool) : List Char → Option (List Char × List Char)
  | [] => none
  | c :: rest =>
    if inComment then f.braced (c ≠ '\n') rest
    else if c = '\x7d' then some ([], rest)
    else if f.spaced && Text.isBlank c then f.braced false rest
    else if f.spaced && c = '#' then f.braced true rest
    else (f.braced false rest).map fun (content, rest) => (c :: content, rest)

/-- The set that a single character stands for outside of brackets, unless it may not be written: it
is about all scripts in either case, or it is a byte beyond ASCII in a pattern about ASCII. -/
def single? (f : Flags) (c : Char) (asByte : Bool) : Option CharSet :=
  if f.allScripts then
    if f.eitherCase then none else some (.single c)
  else if asByte && 0x80 ≤ c.toNat then none
  else if f.eitherCase then some (.eitherCase (.single c))
  else some (.single c)

/-- The set that a range stands for between brackets, unless it may not be written. -/
def range? (f : Flags) (first last : Char) : Option CharSet :=
  let set := CharSet.ranges [(first, last)]
  if last < first then none
  else if f.allScripts then
    if f.eitherCase then none else some set
  else if 0x80 ≤ last.toNat then none
  else if f.eitherCase then some (.eitherCase set)
  else some set

/-- The set that a name between colons stands for between brackets, unless it may not be written. -/
def named? (f : Flags) (complemented : Bool) (set : CharSet) : Option CharSet :=
  if f.allScripts then
    if f.eitherCase then none
    else some (if complemented then .complement set else set)
  else if complemented then none
  else if f.eitherCase then some (.eitherCase set)
  else some set

/-- The set that the dot stands for, which is about all scripts. -/
def dot? (f : Flags) : Option CharSet :=
  if !f.allScripts then none
  else if f.dotTakesAll then some .all
  else if f.wideLines then
    some (.ranges [('\x00', '\t'), ('\x0b', '\x0c'), ('\x0e', CharSet.lastChar)])
  else some (.ranges [('\x00', '\t'), ('\x0b', CharSet.lastChar)])

/-- The edge that a caret stands for. -/
def caret (f : Flags) : Edge :=
  if !f.byLine then .textStart else if f.wideLines then .wideLineStart else .lineStart

/-- The edge that a dollar sign stands for. -/
def dollar (f : Flags) : Edge :=
  if !f.byLine then .textEnd else if f.wideLines then .wideLineEnd else .lineEnd

/-- The item for a character of a set. -/
def item (f : Flags) (set : CharSet) : Pattern :=
  .char (!f.allScripts) set

/-- The pattern that an edge of a word stands for. -/
def wordEdge (f : Flags) (e : WordEdge) : Pattern :=
  if f.allScripts then .scriptWordEdge else .edge (.word e)

end Flags

/-! ## Escapes -/

/-- What an escape stands for: a character, which may have been given as a byte; a set with a name; an
edge of the text or of a word. -/
inductive Escape where
  | char (c : Char) (asByte : Bool)
  | named (name : String)
  | textStart
  | textEnd
  | word (e : WordEdge)

/-- The character with a code point in hexadecimal. -/
def ofHex? (digits : List Char) : Option Char :=
  match digits.foldlM (fun n c => (Json.hexDigit? c).map (n * 16 + ·)) 0 with
  | none => none
  | some n => if digits ≠ [] ∧ n.isValidChar then some (Char.ofNat n) else none

/-- So many characters from the front of a text, each behind what the flags pass over. -/
def takeSpaced (f : Flags) : Nat → List Char → Option (List Char × List Char)
  | 0, text => some ([], text)
  | count + 1, text =>
    match f.skip text with
    | [] => none
    | c :: rest => (takeSpaced f count rest).map fun (cs, rest) => (c :: cs, rest)

/-- Reads a code point: so many hexadecimal digits, or any number of them between braces. Two digits
are a byte. -/
def codePoint (f : Flags) (count : Nat) (text : List Char) : Option (Escape × List Char) :=
  match f.skip text with
  | '\x7b' :: rest =>
    match f.braced false rest with
    | none => none
    | some (digits, rest) => (ofHex? digits).map fun c => (.char c false, rest)
  | text =>
    match takeSpaced f count text with
    | none => none
    | some (digits, rest) => (ofHex? digits).map fun c => (.char c (count = 2), rest)

/-- The edge of a word with a name. -/
def WordEdge.ofName? (name : String) : Option WordEdge :=
  if name = "start" then some .start
  else if name = "end" then some .finish
  else if name = "start-half" then some .noneBefore
  else if name = "end-half" then some .noneAfter
  else none

/-- Reads an edge of a word behind its letter. A letter or a dash behind a brace starts a name;
anything else there is left to be a repetition. -/
def wordEdge (f : Flags) (text : List Char) : Option (Escape × List Char) :=
  match text with
  | '\x7b' :: inside =>
    match f.skip inside with
    | [] => none
    | c :: _ =>
      if c.isAlpha || c = '-' then
        match f.braced false inside with
        | none => none
        | some (name, rest) =>
          (WordEdge.ofName? (String.ofList name)).map fun e => (.word e, rest)
      else some (.word .either, text)
  | _ => some (.word .either, text)

/-- What a letter or a sign stands for behind a backslash: a set, an edge, a control character, or a
sign of ASCII itself. -/
def escaped? (c : Char) : Option Escape :=
  if c = 'd' then some (.named "digit")
  else if c = 's' then some (.named "space")
  else if c = 'w' then some (.named "word")
  else if c = 'A' then some .textStart
  else if c = 'z' then some .textEnd
  else if c = 'B' then some (.word .neither)
  else if c = '<' then some (.word .start)
  else if c = '>' then some (.word .finish)
  else if c = 'a' then some (.char '\x07' false)
  else if c = 'f' then some (.char '\x0c' false)
  else if c = 't' then some (.char '\t' false)
  else if c = 'n' then some (.char '\n' false)
  else if c = 'r' then some (.char '\r' false)
  else if c = 'v' then some (.char '\x0b' false)
  else if c.toNat < 0x80 && !c.isAlphanum then some (.char c false)
  else none

/-- Reads an escape behind its backslash. -/
def escape (f : Flags) : List Char → Option (Escape × List Char)
  | [] => none
  | c :: rest =>
    if c = 'x' then codePoint f 2 rest
    else if c = 'u' then codePoint f 4 rest
    else if c = 'U' then codePoint f 8 rest
    else if c = 'b' then wordEdge f rest
    else (escaped? c).map fun e => (e, rest)

/-- The item that an escape stands for outside of brackets. -/
def Escape.item? (f : Flags) : Escape → Option Pattern
  | .char c asByte => (f.single? c asByte).map f.item
  | .named name => if f.allScripts then none else (CharSet.named? name).map f.item
  | .textStart => some (.edge .textStart)
  | .textEnd => some (.edge .textEnd)
  | .word e => some (f.wordEdge e)

/-- The part of a set that an escape stands for between brackets. -/
def Escape.part? (f : Flags) : Escape → Option CharSet
  | .char c _ => f.range? c c
  | .named name => if f.allScripts then none else CharSet.named? name
  | .textStart | .textEnd | .word _ => none

/-! ## Repetition -/

/-- A decimal number with blanks around it, which fits into 32 bits. -/
def decimal? (text : List Char) : Option Nat :=
  let digits := Text.trimChars text
  if digits = [] || !digits.all Char.isDigit then none
  else
    let n := digits.foldl (fun n c => n * 10 + (c.toNat - 0x30)) 0
    if n ≤ 0xFFFFFFFF then some n else none

/-- How often something is repeated, from what stands between braces: a number, a number and a comma,
or two numbers, the greater one behind. -/
def counts? (content : List Char) : Option (Nat × Option Nat) :=
  match decimal? (content.takeWhile (· ≠ ',')) with
  | none => none
  | some least =>
    match content.dropWhile (· ≠ ',') with
    | [] => some (least, some least)
    | [_] => some (least, none)
    | _ :: more =>
      match decimal? more with
      | none => none
      | some most => if least ≤ most then some (least, some most) else none

/-- Reads the preference of a repetition behind it, which a question mark turns around: whether it
prefers more times. -/
def preference (f : Flags) (text : List Char) : Bool × List Char :=
  match text with
  | '?' :: rest => (f.reluctant, rest)
  | rest => (!f.reluctant, rest)

/-! ## Tokens -/

/-- Tokens of a pattern: an item, a change of flags, the signs of groups, of a choice and of a
repetition; and the signs and parts of sets. -/
inductive Token where
  | item (p : Pattern)
  | setting
  | openGroup (number : Option Nat)
  | closeGroup
  | bar
  | times (least : Nat) (most : Option Nat) (greedy : Bool)
  | openSet (complemented : Bool)
  | part (set : CharSet)
  | operation (operation : SetOperation)
  | closeSet (ascii : Bool)

/-- How far it is from an opening bracket: right behind it, behind dashes that follow it, or further.
A closing bracket right behind it is a part of the set, as is any dash before other parts. -/
inductive Lead where
  | first
  | dashes
  | past
  deriving DecidableEq

/-- What the meaning of a character depends on: the flags, those to return to behind the groups that
are open, the number and the names of groups so far, and the brackets that are open. -/
structure Scope where
  flags : Flags
  outer : List Flags
  groups : Nat
  names : List String
  brackets : Nat
  lead : Lead

namespace Scope

/-- The start of a pattern. -/
def start : Scope :=
  ⟨Flags.start, [], 0, [], 0, .past⟩

/-- A token, what the meaning of the next character depends on, and the text behind. -/
abbrev Next := Token × Scope × List Char

/-- Whether characters are the name of a group. -/
def isName : List Char → Bool
  | [] => false
  | c :: rest =>
    (c = '_' || Text.isLetter c) &&
      rest.all fun c =>
        c = '_' || c = '.' || c = '[' || c = ']' || Text.isLetter c || Text.isNumber c

/-- Opens a group with flags of its own. -/
def flaggedGroup (s : Scope) (flags : Flags) (rest : List Char) : Next :=
  (.openGroup none, { s with flags := flags, outer := s.flags :: s.outer }, rest)

/-- Opens a group that has the next number. -/
def numberedGroup (s : Scope) (rest : List Char) : Next :=
  let groups := s.groups + 1
  (.openGroup (some groups), { s with outer := s.flags :: s.outer, groups := groups }, rest)

/-- Reads the name of a group and opens it. No two groups have the same name. -/
def namedGroup (s : Scope) (text : List Char) : Option Next :=
  let name := text.takeWhile (· ≠ '>')
  match text.dropWhile (· ≠ '>') with
  | [] => none
  | _ :: rest =>
    let written := String.ofList name
    if isName name && !s.names.contains written then
      some ({ s with names := written :: s.names }.numberedGroup rest)
    else none

/-- Reads flags behind a question mark. They are for a group that they open, or for all that is left
of the group in which they stand. -/
def flagged (s : Scope) (text : List Char) : Option Next :=
  let isEnd (c : Char) : Bool := c = ':' || c = ')'
  let letters := text.takeWhile fun c => !isEnd c
  match text.dropWhile fun c => !isEnd c with
  | [] => none
  | sign :: rest =>
    match s.flags.turnAll? true [] letters with
    | none => none
    | some flags =>
      if sign = ':' then some (s.flaggedGroup flags rest)
      else if letters = [] then none
      else some (.setting, { s with flags := flags }, rest)

/-- Reads the start of a group behind its parenthesis. There is no looking ahead or behind. -/
def group (s : Scope) (text : List Char) : Option Next :=
  match s.flags.skip text with
  | '?' :: '=' :: _ | '?' :: '!' :: _ | '?' :: '<' :: '=' :: _ | '?' :: '<' :: '!' :: _ => none
  | '?' :: 'P' :: '<' :: rest | '?' :: '<' :: rest => s.namedGroup rest
  | '?' :: rest => s.flagged rest
  | rest => some (s.numberedGroup rest)

/-- Opens a bracket, behind which a caret takes the complement. That reaches beyond ASCII, so it may not
be taken in a pattern about ASCII. -/
def openSet (s : Scope) (text : List Char) : Option Next :=
  let inside := { s with brackets := s.brackets + 1, lead := .first }
  match s.flags.skip text with
  | '^' :: rest => if s.flags.allScripts then some (.openSet true, inside, rest) else none
  | rest => some (.openSet false, inside, rest)

/-- Reads a repetition whose counts have been read. -/
def repetition (s : Scope) (least : Nat) (most : Option Nat) (text : List Char) : Next :=
  let (greedy, rest) := preference s.flags text
  (.times least most greedy, s, rest)

/-- Reads a repetition behind its brace. -/
def counted (s : Scope) (text : List Char) : Option Next :=
  match s.flags.braced false text with
  | none => none
  | some (content, rest) =>
    (counts? content).map fun (least, most) => s.repetition least most (s.flags.skip rest)

/-- Reads a token outside of brackets that starts with a character. -/
def nextOutside (s : Scope) (c : Char) (rest : List Char) : Option Next :=
  if c = '(' then s.group rest
  else if c = ')' then
    match s.outer with
    | [] => none
    | flags :: outer => some (.closeGroup, { s with flags := flags, outer := outer }, rest)
  else if c = '|' then some (.bar, s, rest)
  else if c = '[' then s.openSet rest
  else if c = '?' then some (s.repetition 0 (some 1) rest)
  else if c = '*' then some (s.repetition 0 none rest)
  else if c = '+' then some (s.repetition 1 none rest)
  else if c = '\x7b' then s.counted rest
  else if c = '\\' then
    match escape s.flags rest with
    | none => none
    | some (e, rest) => (e.item? s.flags).map fun p => (.item p, s, rest)
  else if c = '.' then s.flags.dot?.map fun set => (.item (s.flags.item set), s, rest)
  else if c = '^' then some (.item (.edge s.flags.caret), s, rest)
  else if c = '$' then some (.item (.edge s.flags.dollar), s, rest)
  else (s.flags.single? c false).map fun set => (.item (s.flags.item set), s, rest)

/-- Reads the name of a set behind a bracket: between colons, behind a caret for the complement. -/
def setName? (text : List Char) : Option (Bool × CharSet × List Char) :=
  match text with
  | ':' :: text =>
    let complemented := text.head? = some '^'
    let text := if complemented then text.tail else text
    match text.dropWhile (· ≠ ':') with
    | ':' :: ']' :: rest =>
      (CharSet.named? (String.ofList (text.takeWhile (· ≠ ':')))).map fun set =>
        (complemented, set, rest)
    | _ => none
  | _ => none

/-- Reads an escape or a character that stands for itself. -/
def plain (f : Flags) (c : Char) (rest : List Char) : Option (Escape × List Char) :=
  if c = '\\' then escape f rest else some (.char c false, rest)

/-- Reads a part of a set: a range, or what stands by itself. A dash before the end of the set, or
before another dash, makes no range. -/
def part (f : Flags) (c : Char) (rest : List Char) : Option (CharSet × List Char) :=
  match plain f c rest with
  | none => none
  | some (first, rest) =>
    let alone := (first.part? f).map fun set => (set, rest)
    match f.skip rest with
    | '-' :: behind =>
      if f.peek behind = some ']' || f.peek behind = some '-' then alone
      else
        match f.skip behind with
        | [] => none
        | d :: rest =>
          match first, plain f d rest with
          | .char a _, some (.char b _, rest) => (f.range? a b).map fun set => (set, rest)
          | _, _ => none
    | _ => alone

/-- Reads a token between brackets that starts with a character. -/
def nextInside (s : Scope) (c : Char) (rest : List Char) : Option Next :=
  if c = '-' && s.lead ≠ .past then
    (s.flags.range? c c).map fun set => (.part set, { s with lead := .dashes }, rest)
  else
    let inner := { s with lead := .past }
    if c = ']' && s.lead = .first then
      (s.flags.range? c c).map fun set => (.part set, inner, rest)
    else if c = ']' then
      some (.closeSet (!s.flags.allScripts), { inner with brackets := s.brackets - 1 }, rest)
    else if c = '[' then
      match setName? rest with
      | none => inner.openSet rest
      | some (complemented, set, rest) =>
        (s.flags.named? complemented set).map fun set => (.part set, inner, rest)
    else if c = '&' && rest.head? = some '&' then
      some (.operation .intersection, inner, rest.tail)
    else if c = '-' && rest.head? = some '-' then
      some (.operation .difference, inner, rest.tail)
    else if c = '~' && rest.head? = some '~' then
      some (.operation .symmetricDifference, inner, rest.tail)
    else (part s.flags c rest).map fun (set, rest) => (.part set, inner, rest)

/-- Reads a token that starts with a character. -/
def next (s : Scope) (c : Char) (rest : List Char) : Option Next :=
  if s.brackets = 0 then s.nextOutside c rest else s.nextInside c rest

end Scope

/-- The tokens of a text, of which there are at most `fuel`. Brackets must be closed at its end. -/
def tokensFrom (fuel : Nat) (s : Scope) (text : List Char) : Option (List Token) :=
  match s.flags.skip text, fuel with
  | [], _ => if s.brackets = 0 then some [] else none
  | _ :: _, 0 => none
  | c :: rest, fuel + 1 =>
    match s.next c rest with
    | none => none
    | some (token, s, rest) => (tokensFrom fuel s rest).map (token :: ·)

/-- The tokens of a written pattern, if it can be cut into tokens. Each takes at least one
character. -/
def tokens? (text : List Char) : Option (List Token) :=
  tokensFrom text.length Scope.start text

end DiagnosticDigest.Pattern
