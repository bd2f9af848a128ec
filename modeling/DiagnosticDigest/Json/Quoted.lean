import DiagnosticDigest.Json.Reader

/-!
# Quoted strings

Strings of JSON texts, written and read. A writer escapes what must be escaped and nothing else. A
reader also takes every other escape of the format; escapes of surrogates stand for one character
together, and only in pairs.

## Main definitions

* `Json.escaped`, `Json.quotedText`: a character and a string as they are written.
* `Json.escape`: what an escape stands for, behind its backslash.
* `Json.quotation`: the reader of strings, behind the opening quote.
-/

namespace DiagnosticDigest.Json

/-! ## Writing -/

/-- A hexadecimal digit in lower case. -/
def hexChar (n : Nat) : Char :=
  if n < 10 then Char.ofNat (0x30 + n) else Char.ofNat (0x57 + n)

/-- A character as it stands in a written string: quotes, backslashes and controls are escaped,
everything else stands for itself. -/
def escaped (c : Char) : List Char :=
  if c = '"' then ['\\', '"']
  else if c = '\\' then ['\\', '\\']
  else if c = '\x08' then ['\\', 'b']
  else if c = '\x0c' then ['\\', 'f']
  else if c = '\n' then ['\\', 'n']
  else if c = '\r' then ['\\', 'r']
  else if c = '\t' then ['\\', 't']
  else if c.toNat < 0x20 then
    ['\\', 'u', '0', '0', hexChar (c.toNat / 0x10), hexChar (c.toNat % 0x10)]
  else [c]

/-- A string as it is written, between quotes. -/
def quotedText (text : String) : List Char :=
  '"' :: text.toList.flatMap escaped ++ ['"']

/-! ## Escapes -/

/-- The value of a hexadecimal digit in either case. -/
def hexDigit? (c : Char) : Option Nat :=
  if '0' ≤ c && c ≤ '9' then some (c.toNat - 0x30)
  else if 'a' ≤ c && c ≤ 'f' then some (c.toNat - 0x57)
  else if 'A' ≤ c && c ≤ 'F' then some (c.toNat - 0x37)
  else none

/-- The number that four hexadecimal digits at the front of a text make, and what is left. -/
def hexNumber? : List Char → Option (Nat × List Char)
  | a :: b :: c :: d :: rest =>
    match hexDigit? a, hexDigit? b, hexDigit? c, hexDigit? d with
    | some a, some b, some c, some d => some (((a * 16 + b) * 16 + c) * 16 + d, rest)
    | _, _, _, _ => none
  | _ => none

/-- Reads four hexadecimal digits. A fault lies behind the four bytes that should be digits, or at
the end if there are fewer. -/
def hexNumber (text : List Char) : Reading Nat :=
  match hexNumber? text with
  | some read => .ok read
  | none =>
    if Utf8.size text < 4 then .error (.atEnd .endInString)
    else .error ⟨.invalidEscape, Utf8.size text - 4⟩

/-- Whether a number is the first half of a surrogate pair. -/
def isLeading (n : Nat) : Bool :=
  0xD800 ≤ n && n ≤ 0xDBFF

/-- Whether a number is the second half of a surrogate pair. -/
def isTrailing (n : Nat) : Bool :=
  0xDC00 ≤ n && n ≤ 0xDFFF

/-- The character that a surrogate pair stands for. -/
def ofPair (leading trailing : Nat) : Char :=
  Char.ofNat (0x10000 + (leading - 0xD800) * 0x400 + (trailing - 0xDC00))

/-- Reads the second half of a pair, which must be an escape of its own. -/
def secondHalf (leading : Nat) : List Char → Reading Char
  | [] => .error (.atEnd .endInString)
  | '\\' :: rest =>
    match rest with
    | [] => .error (.atEnd .endInString)
    | 'u' :: rest =>
      match hexNumber rest with
      | .error fault => .error fault
      | .ok (trailing, rest) =>
        if isTrailing trailing then .ok (ofPair leading trailing, rest)
        else .error (.before .loneSurrogate rest)
    | other => .error (.past .unfinishedPair other)
  | other => .error (.past .unfinishedPair other)

/-- Reads what follows `\u`. -/
def numberedEscape (text : List Char) : Reading Char :=
  match hexNumber text with
  | .error fault => .error fault
  | .ok (n, rest) =>
    if isTrailing n then .error (.before .loneSurrogate rest)
    else if isLeading n then secondHalf n rest
    else .ok (Char.ofNat n, rest)

/-- The character that a letter stands for behind a backslash. -/
def simpleEscape? (letter : Char) : Option Char :=
  match letter with
  | '"' => some '"'
  | '\\' => some '\\'
  | '/' => some '/'
  | 'b' => some '\x08'
  | 'f' => some '\x0c'
  | 'n' => some '\n'
  | 'r' => some '\r'
  | 't' => some '\t'
  | _ => none

/-- Reads an escape, behind its backslash. -/
def escape : List Char → Reading Char
  | [] => .error (.atEnd .endInString)
  | letter :: rest =>
    if letter = 'u' then numberedEscape rest
    else
      match simpleEscape? letter with
      | some c => .ok (c, rest)
      | none => .error (.past .invalidEscape (letter :: rest))

theorem length_lt_of_hexNumber {text rest : List Char} {n : Nat}
    (h : hexNumber text = .ok (n, rest)) : rest.length < text.length := by
  unfold hexNumber at h
  split at h
  · rename_i read hread
    obtain rfl : read = (n, rest) := by simpa using h
    unfold hexNumber? at hread
    split at hread
    · split at hread
      · obtain ⟨-, rfl⟩ : _ ∧ _ = rest := by simpa using hread
        simp only [List.length_cons]
        omega
      · simp at hread
    · simp at hread
  · split at h <;> simp at h

theorem length_lt_of_secondHalf {text rest : List Char} {leading : Nat} {c : Char}
    (h : secondHalf leading text = .ok (c, rest)) : rest.length < text.length := by
  unfold secondHalf at h
  split at h
  · simp at h
  · split at h
    · simp at h
    · split at h
      · simp at h
      · rename_i hnumber
        have := length_lt_of_hexNumber hnumber
        split at h
        · obtain ⟨-, rfl⟩ : _ ∧ _ = rest := by simpa using h
          simp only [List.length_cons]
          omega
        · simp at h
    · simp at h
  · simp at h

theorem length_lt_of_escape {text rest : List Char} {c : Char}
    (h : escape text = .ok (c, rest)) : rest.length < text.length := by
  unfold escape at h
  split at h
  · simp at h
  · simp only [List.length_cons]
    split at h
    · unfold numberedEscape at h
      split at h
      · simp at h
      · rename_i hnumber
        have := length_lt_of_hexNumber hnumber
        split at h
        · simp at h
        · split at h
          · have := length_lt_of_secondHalf h
            omega
          · obtain ⟨-, rfl⟩ : _ ∧ _ = rest := by simpa using h
            omega
    · split at h
      · obtain ⟨-, rfl⟩ : _ ∧ _ = rest := by simpa using h
        omega
      · simp at h

/-! ## Reading -/

set_option linter.unusedVariables false in
/-- Reads the characters of a string up to its closing quote; `done` holds those before, the latest
first. -/
def charactersFrom (done : List Char) (text : List Char) : Reading (List Char) :=
  match text with
  | [] => .error (.atEnd .endInString)
  | c :: rest =>
    if c = '"' then .ok (done.reverse, rest)
    else if c = '\\' then
      match hescape : escape rest with
      | .error fault => .error fault
      | .ok (meant, rest) => charactersFrom (meant :: done) rest
    else if c.toNat < 0x20 then .error (.past .controlCharacter (c :: rest))
    else charactersFrom (c :: done) rest
termination_by text.length
decreasing_by
  · have := length_lt_of_escape hescape
    simp only [List.length_cons]
    omega
  · simp

theorem length_lt_of_charactersFrom {done text read rest : List Char}
    (h : charactersFrom done text = .ok (read, rest)) : rest.length < text.length := by
  fun_induction charactersFrom done text with
  | case1 => simp at h
  | case2 =>
    obtain ⟨-, rfl⟩ : _ ∧ _ = rest := by simpa using h
    simp
  | case3 => simp at h
  | case4 =>
    rename_i hescape _ ih
    have := length_lt_of_escape hescape
    have := ih h
    simp only [List.length_cons]
    omega
  | case5 => simp at h
  | case6 _ _ _ _ _ _ ih =>
    have := ih h
    simp only [List.length_cons]
    omega

/-- The reader of strings, behind the opening quote. -/
def quotation : Reader String where
  run text :=
    match charactersFrom [] text with
    | .error fault => .error fault
    | .ok (read, rest) => .ok (String.ofList read, rest)
  shortens := by
    intro text a rest h
    split at h
    · simp at h
    · rename_i hread
      have := length_lt_of_charactersFrom hread
      obtain ⟨-, rfl⟩ : _ ∧ _ = rest := by simpa using h
      exact this

end DiagnosticDigest.Json
