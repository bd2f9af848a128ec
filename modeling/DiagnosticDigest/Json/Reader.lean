import DiagnosticDigest.Json.Fault

/-!
# Readers

A reader takes something from the front of a text and gives what is left, or a fault. Because it
always takes at least one character, reading again and again comes to an end; the lists in brackets
and braces rest on that.

## Main definitions

* `Json.Reader`: a function on texts that takes something from their front.
* `Json.skipBlanks`: what is left behind blanks.
* `Json.items`, `Json.members`: the inside of an array and of an object.
-/

namespace DiagnosticDigest.Json

/-- What reading from the front of a text gives: a value and the rest of the text, or a fault. -/
abbrev Reading (α : Type) := Except Fault (α × List Char)

/-- A way of reading that takes at least one character whenever it succeeds. -/
structure Reader (α : Type) where
  run : List Char → Reading α
  shortens : ∀ {text : List Char} {a : α} {rest : List Char},
    run text = .ok (a, rest) → rest.length < text.length

/-- The four characters that may stand between the parts of a value. -/
def isBlank (c : Char) : Bool :=
  c = ' ' || c = '\n' || c = '\t' || c = '\r'

/-- What is left of a text behind the blanks at its front. -/
def skipBlanks (text : List Char) : List Char :=
  text.dropWhile isBlank

theorem length_skipBlanks_le (text : List Char) : (skipBlanks text).length ≤ text.length :=
  (List.dropWhile_sublist isBlank).length_le

/-- A text that begins with `c` behind its blanks is longer than what follows `c`. -/
theorem lt_length_of_skipBlanks {text rest : List Char} {c : Char}
    (h : skipBlanks text = c :: rest) : rest.length < text.length := by
  have hle := length_skipBlanks_le text
  rw [h, List.length_cons] at hle
  omega

variable {α : Type}

/-! ## Arrays -/

set_option linter.unusedVariables false in
/-- Reads items up to the closing bracket, at a place where an item has to stand; `done` holds the
items before it, the latest first. -/
def itemsFrom (item : Reader α) (done : List α) (text : List Char) : Reading (List α) :=
  match hitem : item.run text with
  | .error fault => .error fault
  | .ok (value, rest) =>
    match hrest : skipBlanks rest with
    | [] => .error (.atEnd .endInList)
    | ']' :: rest => .ok ((value :: done).reverse, rest)
    | ',' :: more =>
      match skipBlanks more with
      | [] => .error (.atEnd .endInValue)
      | ']' :: tail => .error (.past .trailingComma (']' :: tail))
      | _ => itemsFrom item (value :: done) more
    | other => .error (.past .expectedListEnd other)
termination_by text.length
decreasing_by
  have := item.shortens hitem
  have := lt_length_of_skipBlanks hrest
  omega

/-- Reads the inside of an array, behind the opening bracket. -/
def items (item : Reader α) (text : List Char) : Reading (List α) :=
  match skipBlanks text with
  | [] => .error (.atEnd .endInList)
  | ']' :: rest => .ok ([], rest)
  | _ => itemsFrom item [] text

theorem length_lt_of_itemsFrom {item : Reader α} {done : List α} {text : List Char}
    {read : List α} {rest : List Char} (h : itemsFrom item done text = .ok (read, rest)) :
    rest.length < text.length := by
  fun_induction itemsFrom item done text with
  | case1 => simp at h
  | case2 => simp at h
  | case3 done text value mid hitem tail hmid =>
    have h1 := item.shortens hitem
    have h2 := lt_length_of_skipBlanks hmid
    obtain ⟨-, rfl⟩ : _ ∧ tail = rest := by simpa using h
    omega
  | case4 => simp at h
  | case5 => simp at h
  | case6 done text value mid hitem more hmid _ _ ih =>
    have h1 := item.shortens hitem
    have h2 := lt_length_of_skipBlanks hmid
    have h3 := ih h
    omega
  | case7 => simp at h

theorem length_lt_of_items {item : Reader α} {text : List Char} {read : List α}
    {rest : List Char} (h : items item text = .ok (read, rest)) :
    rest.length < text.length := by
  unfold items at h
  split at h
  · simp at h
  · rename_i tail htext
    obtain ⟨-, rfl⟩ : _ ∧ tail = rest := by simpa using h
    exact lt_length_of_skipBlanks htext
  · exact length_lt_of_itemsFrom h

/-! ## Objects -/

/-- Reads a member, behind the opening quote of its key. -/
def readMember (key : Reader String) (value : Reader α) (text : List Char) :
    Reading (String × α) :=
  match key.run text with
  | .error fault => .error fault
  | .ok (name, rest) =>
    match skipBlanks rest with
    | [] => .error (.atEnd .endInObject)
    | ':' :: rest =>
      match value.run rest with
      | .error fault => .error fault
      | .ok (held, rest) => .ok ((name, held), rest)
    | other => .error (.past .expectedColon other)

/-- The reader of members, behind the opening quote of the key. -/
def member (key : Reader String) (value : Reader α) : Reader (String × α) where
  run := readMember key value
  shortens := by
    intro text pair rest h
    unfold readMember at h
    split at h
    · simp at h
    · rename_i name mid hkey
      have h1 := key.shortens hkey
      split at h
      · simp at h
      · rename_i after hcolon
        have h2 := lt_length_of_skipBlanks hcolon
        split at h
        · simp at h
        · rename_i held tail hvalue
          have h3 := value.shortens hvalue
          obtain ⟨-, rfl⟩ : _ ∧ tail = rest := by simpa using h
          omega
      · simp at h

set_option linter.unusedVariables false in
/-- Reads members up to the closing brace, behind the opening quote of a key; `done` holds the
members before it, the latest first. -/
def membersFrom (member : Reader (String × α)) (done : List (String × α)) (text : List Char) :
    Reading (List (String × α)) :=
  match hmember : member.run text with
  | .error fault => .error fault
  | .ok (pair, rest) =>
    match hrest : skipBlanks rest with
    | [] => .error (.atEnd .endInObject)
    | '\x7d' :: rest => .ok ((pair :: done).reverse, rest)
    | ',' :: more =>
      match hmore : skipBlanks more with
      | [] => .error (.atEnd .endInValue)
      | '"' :: more => membersFrom member (pair :: done) more
      | '\x7d' :: tail => .error (.past .trailingComma ('\x7d' :: tail))
      | other => .error (.past .keyNotString other)
    | other => .error (.past .expectedObjectEnd other)
termination_by text.length
decreasing_by
  have := member.shortens hmember
  have := lt_length_of_skipBlanks hrest
  have := lt_length_of_skipBlanks hmore
  omega

/-- Reads the inside of an object, behind the opening brace. -/
def members (member : Reader (String × α)) (text : List Char) : Reading (List (String × α)) :=
  match skipBlanks text with
  | [] => .error (.atEnd .endInObject)
  | '\x7d' :: rest => .ok ([], rest)
  | '"' :: rest => membersFrom member [] rest
  | other => .error (.past .keyNotString other)

theorem length_lt_of_membersFrom {member : Reader (String × α)} {done : List (String × α)}
    {text : List Char} {read : List (String × α)} {rest : List Char}
    (h : membersFrom member done text = .ok (read, rest)) : rest.length < text.length := by
  fun_induction membersFrom member done text with
  | case1 => simp at h
  | case2 => simp at h
  | case3 done text pair mid hmember tail hmid =>
    have h1 := member.shortens hmember
    have h2 := lt_length_of_skipBlanks hmid
    obtain ⟨-, rfl⟩ : _ ∧ tail = rest := by simpa using h
    omega
  | case4 => simp at h
  | case5 done text pair mid hmember tail hmid more hmore ih =>
    have h1 := member.shortens hmember
    have h2 := lt_length_of_skipBlanks hmid
    have h3 := lt_length_of_skipBlanks hmore
    have h4 := ih h
    omega
  | case6 => simp at h
  | case7 => simp at h
  | case8 => simp at h

theorem length_lt_of_members {member : Reader (String × α)} {text : List Char}
    {read : List (String × α)} {rest : List Char} (h : members member text = .ok (read, rest)) :
    rest.length < text.length := by
  unfold members at h
  split at h
  · simp at h
  · rename_i tail htext
    obtain ⟨-, rfl⟩ : _ ∧ tail = rest := by simpa using h
    exact lt_length_of_skipBlanks htext
  · rename_i tail htext
    have h1 := lt_length_of_skipBlanks htext
    have h2 := length_lt_of_membersFrom h
    omega
  · simp at h

end DiagnosticDigest.Json
