/-!
# Control sequences

A text that is sent to a terminal may hold control sequences: an escape character and what follows
it, up to the character that ends the sequence. The terminal obeys them and shows nothing. A text is
stripped of them, and of the other control characters that are not white space, by one pass of a
state machine.

The forms are those of ECMA-48: a lone escape, a control sequence behind `ESC [`, a device control
string behind `ESC P`, an operating system command behind `ESC ]`, and the strings behind `ESC X`,
`ESC ^` and `ESC _`. An eight-bit form counts as text, except that the byte `0x9C` ends a string, also
inside the encoding of a character.

## Main definitions

* `Terminal.State`, `Terminal.State.next`: how far into a control sequence a text is.
* `Terminal.State.shows`: whether a character shows.
* `Terminal.strip`: the characters of a text that show.
-/

namespace DiagnosticDigest.Terminal

/-- How far into a control sequence a text is. -/
inductive State where
  | text
  | escape
  | escapeIntermediate
  | controlStart
  | controlParameter
  | controlIntermediate
  | controlRefused
  | deviceStart
  | deviceParameter
  | deviceIntermediate
  | string
  | command
  deriving DecidableEq

namespace State

/-- Whether a character stands between two code points. -/
def between (low high : Nat) (c : Char) : Bool :=
  low ≤ c.toNat && c.toNat ≤ high

/-- Whether a character is an intermediate one. -/
def isIntermediate : Char → Bool :=
  between 0x20 0x2F

/-- Whether a character ends a control sequence. -/
def isFinal : Char → Bool :=
  between 0x40 0x7E

/-- Whether the encoding of a character holds the byte that ends a string. -/
def endsString (c : Char) : Bool :=
  (String.utf8EncodeChar c).contains 0x9C

/-- The state behind a character other than those that are obeyed everywhere. Characters that have no
meaning in a state leave it as it is. -/
def nextWithin (s : State) (c : Char) : State :=
  match s with
  | text => text
  | escape =>
    if isIntermediate c then escapeIntermediate
    else if c = '[' then controlStart
    else if c = 'P' then deviceStart
    else if c = ']' then command
    else if c = 'X' || c = '^' || c = '_' then string
    else if between 0x30 0x7E c then text
    else escape
  | escapeIntermediate => if between 0x30 0x7E c then text else escapeIntermediate
  | controlStart =>
    if isFinal c then text
    else if isIntermediate c then controlIntermediate
    else if between 0x30 0x3F c then controlParameter
    else controlStart
  | controlParameter =>
    if isFinal c then text
    else if isIntermediate c then controlIntermediate
    else if between 0x3C 0x3F c then controlRefused
    else controlParameter
  | controlIntermediate =>
    if isFinal c then text
    else if between 0x30 0x3F c then controlRefused
    else controlIntermediate
  | controlRefused => if isFinal c then text else controlRefused
  | deviceStart =>
    if isFinal c then string
    else if isIntermediate c then deviceIntermediate
    else if between 0x30 0x3F c then deviceParameter
    else deviceStart
  | deviceParameter =>
    if isFinal c || between 0x3C 0x3F c then string
    else if isIntermediate c then deviceIntermediate
    else deviceParameter
  | deviceIntermediate => if between 0x30 0x7E c then string else deviceIntermediate
  | string => if endsString c then text else string
  | command => if c = '\x07' then text else command

/-- The state behind a character. The cancelling characters and the escape character are obeyed in
every state. -/
def next (s : State) (c : Char) : State :=
  if c = '\x18' || c = '\x1a' then text
  else if c = '\x1b' then escape
  else s.nextWithin c

/-- Whether a character is a control character that shows as white space. -/
def isLayout (c : Char) : Bool :=
  c = '\t' || c = '\n' || c = '\x0c' || c = '\r'

/-- Whether a character shows. In a text all do but the control characters; inside an escape or a
control sequence white space does, inside a string nothing. -/
def shows (s : State) (c : Char) : Bool :=
  match s with
  | text => isLayout c || (0x20 ≤ c.toNat && c ≠ '\x7f')
  | escape | escapeIntermediate => isLayout c
  | controlStart | controlParameter | controlIntermediate | controlRefused => isLayout c
  | deviceStart | deviceParameter | deviceIntermediate | string | command => false

end State

/-- What becomes of a control sequence that white space interrupts: it is forgotten, or it is resumed
at the next character that does not show, unless a character beyond ASCII shows before. -/
inductive Interruption where
  | forgotten
  | resumed
  deriving DecidableEq

/-- The characters that show, behind those that have led to a state. While characters show, the state
is that of the sequence to be resumed. -/
def stripFrom (interruption : Interruption) (showing : Bool) (s : State) : List Char → List Char
  | [] => []
  | c :: rest =>
    if showing then
      if State.text.shows c then
        c :: stripFrom interruption true (if c.toNat < 0x80 then s else .text) rest
      else stripFrom interruption false (s.next c) rest
    else if s.shows c then
      let held := if interruption = .resumed then s else .text
      c :: stripFrom interruption true held rest
    else stripFrom interruption false (s.next c) rest

/-- The part of a text that shows on a terminal. -/
def strip (interruption : Interruption) (text : String) : String :=
  String.ofList (stripFrom interruption false .text text.toList)

/-- A text in which every character shows is left as it is. -/
theorem stripFrom_of_shows {interruption : Interruption} {showing : Bool} {text : List Char}
    (h : ∀ c ∈ text, State.text.shows c = true) :
    stripFrom interruption showing .text text = text := by
  induction text generalizing showing with
  | nil => rfl
  | cons c rest ih =>
    have hc : State.text.shows c = true := h c (List.mem_cons_self)
    have hrest : ∀ d ∈ rest, State.text.shows d = true := fun d hd => h d (List.mem_cons_of_mem c hd)
    cases showing <;> simp [stripFrom, hc, ih hrest]

end DiagnosticDigest.Terminal
