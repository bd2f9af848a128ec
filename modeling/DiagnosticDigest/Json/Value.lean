import DiagnosticDigest.Text.Utf8

/-!
# JSON values

A value of the JSON format. Whole numbers that fit 64 bits are kept exactly; every other number is a
double. The members of an object are kept in ascending order of their keys' bytes, and of several
members with one key the last one stays.

## Main definitions

* `Json`, `Json.Number`: values and numbers.
* `Members.insert`, `Members.ofPairs`: the members of an object, built from the pairs of a text.
* `Json.field?`: the member under a key, where `null` counts as absent.
-/

namespace DiagnosticDigest

/-! ## Members of objects -/

namespace Members

variable {α : Type}

/-- Puts a value under a key, in place of the value that is there, or where the key belongs. -/
def insert (key : String) (value : α) : List (String × α) → List (String × α)
  | [] => [(key, value)]
  | (first, held) :: rest =>
    if key = first then (key, value) :: rest
    else if Utf8.Before key first then (key, value) :: (first, held) :: rest
    else (first, held) :: insert key value rest

/-- The members that pairs give when they are read in order. -/
def ofPairs (pairs : List (String × α)) : List (String × α) :=
  pairs.foldl (fun members pair => insert pair.1 pair.2 members) []

/-- The value under a key. -/
def find? (key : String) : List (String × α) → Option α
  | [] => none
  | (first, held) :: rest => if key = first then some held else find? key rest

/-- A value that was put under a key is found there, and other keys keep theirs. -/
theorem find?_insert (key other : String) (value : α) (members : List (String × α)) :
    find? other (insert key value members) =
      if other = key then some value else find? other members := by
  induction members with
  | nil => rfl
  | cons member rest ih =>
    obtain ⟨first, held⟩ := member
    unfold insert
    split
    · rename_i hkey
      subst hkey
      by_cases h : other = key <;> simp [find?, h]
    · split
      · simp [find?]
      · rename_i hkey _
        by_cases h : other = first
        · subst h
          have hne : other ≠ key := fun heq => hkey heq.symm
          simp [find?, hne]
        · simp [find?, h, ih]

end Members

/-! ## Values -/

/-- A number: a whole number kept exactly, or a double. -/
inductive Json.Number where
  | integer (value : Int)
  | double (value : Float)

/-- A JSON value. -/
inductive Json where
  | null
  | bool (value : Bool)
  | number (value : Json.Number)
  | string (value : String)
  | array (items : List Json)
  | object (members : List (String × Json))

namespace Json

/-- The kind of a value, by its name in the format. -/
def kind : Json → String
  | null => "null"
  | bool _ => "bool"
  | number _ => "number"
  | string _ => "string"
  | array _ => "array"
  | object _ => "object"

/-- The text of a string. -/
def text? : Json → Option String
  | string value => some value
  | _ => none

/-- The items of an array. -/
def items? : Json → Option (List Json)
  | array items => some items
  | _ => none

/-- The member under a key. Values other than objects have none, and `null` counts as absent. -/
def field? (key : String) : Json → Option Json
  | object members =>
    match Members.find? key members with
    | some null => none
    | found => found
  | _ => none

end Json

end DiagnosticDigest
