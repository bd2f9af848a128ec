import DiagnosticDigest.Decimal.Scaled
import DiagnosticDigest.Json.Reader
import DiagnosticDigest.Json.Value

/-!
# Numerals

The text of a number and its value. A numeral without point and exponent is a whole number if it
fits 64 bits; every other numeral is a double.

## Main definitions

* `Json.Numeral`: the parts of a numeral.
* `Json.numeral`: the reader of numerals.
* `Json.Numeral.value`: the number that a numeral stands for, or that it is out of range.
-/

namespace DiagnosticDigest.Json

/-- The parts of a numeral. Digits are kept by their values; a numeral without a point has an empty
fraction, one without an exponent has `none`, and otherwise whether the exponent is negative. -/
structure Numeral where
  negative : Bool
  whole : List Nat
  fraction : List Nat
  exponent : Option (Bool × List Nat)

/-! ## Grammar -/

/-- The digits at the front of a text. -/
def leadingDigits (text : List Char) : List Nat :=
  (text.takeWhile Char.isDigit).map fun c => c.toNat - 0x30

/-- What is left of a text behind the digits at its front. -/
def afterDigits (text : List Char) : List Char :=
  text.dropWhile Char.isDigit

/-- Reads the digits before the point: a zero alone, or digits of which the first is not zero. -/
def readWhole : List Char → Reading (List Nat)
  | [] => .error (.atEnd .endInValue)
  | c :: rest =>
    if c = '0' then
      match rest with
      | [] => .ok ([0], [])
      | d :: more =>
        if d.isDigit then .error (.past .invalidNumber (d :: more)) else .ok ([0], d :: more)
    else if c.isDigit then .ok (leadingDigits (c :: rest), afterDigits (c :: rest))
    else .error (.past .invalidNumber (c :: rest))

/-- Reads the point and the digits behind it, if there is a point. -/
def readFraction (text : List Char) : Reading (List Nat) :=
  match text with
  | '.' :: rest =>
    match leadingDigits rest, rest with
    | [], [] => .error (.atEnd .endInValue)
    | [], other => .error (.past .invalidNumber other)
    | digits, _ => .ok (digits, afterDigits rest)
  | _ => .ok ([], text)

/-- Reads the digits of an exponent. -/
def readPower (text : List Char) : Reading (List Nat) :=
  match leadingDigits text, text with
  | [], [] => .error (.atEnd .endInValue)
  | [], other => .error (.past .invalidNumber other)
  | digits, _ => .ok (digits, afterDigits text)

/-- Reads the exponent, if there is one. -/
def readExponent (text : List Char) : Reading (Option (Bool × List Nat)) :=
  match text with
  | [] => .ok (none, [])
  | c :: rest =>
    if c = 'e' || c = 'E' then
      let (negative, digits) :=
        match rest with
        | '+' :: more => (false, more)
        | '-' :: more => (true, more)
        | _ => (false, rest)
      match readPower digits with
      | .error fault => .error fault
      | .ok (power, rest) => .ok (some (negative, power), rest)
    else .ok (none, c :: rest)

/-- Reads a numeral behind its sign. -/
def readUnsigned (negative : Bool) (text : List Char) : Reading Numeral :=
  match readWhole text with
  | .error fault => .error fault
  | .ok (whole, rest) =>
    match readFraction rest with
    | .error fault => .error fault
    | .ok (fraction, rest) =>
      match readExponent rest with
      | .error fault => .error fault
      | .ok (exponent, rest) => .ok (⟨negative, whole, fraction, exponent⟩, rest)

/-- Reads a numeral. -/
def readNumeral (text : List Char) : Reading Numeral :=
  match text with
  | '-' :: rest => readUnsigned true rest
  | _ => readUnsigned false text

/-! ## Progress -/

theorem length_afterDigits_le (text : List Char) : (afterDigits text).length ≤ text.length :=
  (List.dropWhile_sublist Char.isDigit).length_le

theorem length_lt_of_readWhole {text rest : List Char} {digits : List Nat}
    (h : readWhole text = .ok (digits, rest)) : rest.length < text.length := by
  unfold readWhole at h
  split at h
  · simp at h
  · rename_i c tail
    split at h
    · split at h
      · obtain ⟨-, rfl⟩ : _ ∧ rest = [] := by simpa using h
        simp
      · split at h
        · simp at h
        · obtain ⟨-, rfl⟩ : _ ∧ _ = rest := by simpa using h
          simp
    · split at h
      · rename_i hdigit
        obtain ⟨-, rfl⟩ : _ ∧ _ = rest := by simpa using h
        have := length_afterDigits_le tail
        simp only [afterDigits, List.dropWhile_cons_of_pos hdigit, List.length_cons] at this ⊢
        omega
      · simp at h

theorem length_le_of_readFraction {text rest : List Char} {digits : List Nat}
    (h : readFraction text = .ok (digits, rest)) : rest.length ≤ text.length := by
  unfold readFraction at h
  split at h
  · split at h
    · simp at h
    · simp at h
    · obtain ⟨-, rfl⟩ : _ ∧ _ = rest := by simpa using h
      exact Nat.le_trans (length_afterDigits_le _) (by simp)
  · obtain ⟨-, rfl⟩ : _ ∧ _ = rest := by simpa using h
    omega

theorem length_le_of_readPower {text rest : List Char} {digits : List Nat}
    (h : readPower text = .ok (digits, rest)) : rest.length ≤ text.length := by
  unfold readPower at h
  split at h
  · simp at h
  · simp at h
  · obtain ⟨-, rfl⟩ : _ ∧ _ = rest := by simpa using h
    exact length_afterDigits_le _

theorem length_le_of_readExponent {text rest : List Char} {exponent : Option (Bool × List Nat)}
    (h : readExponent text = .ok (exponent, rest)) : rest.length ≤ text.length := by
  unfold readExponent at h
  split at h
  · obtain ⟨-, rfl⟩ : _ ∧ rest = [] := by simpa using h
    exact Nat.le_refl _
  · split at h
    · split at h
      rename_i hsign
      split at h
      · simp at h
      · rename_i hpower
        have := length_le_of_readPower hpower
        obtain ⟨-, rfl⟩ : _ ∧ _ = rest := by simpa using h
        split at hsign <;> cases hsign <;> simp only [List.length_cons] at * <;> omega
    · obtain ⟨-, rfl⟩ : _ ∧ _ = rest := by simpa using h
      exact Nat.le_refl _

theorem length_lt_of_readUnsigned {text rest : List Char} {negative : Bool} {n : Numeral}
    (h : readUnsigned negative text = .ok (n, rest)) : rest.length < text.length := by
  unfold readUnsigned at h
  split at h
  · simp at h
  · rename_i hwhole
    have := length_lt_of_readWhole hwhole
    split at h
    · simp at h
    · rename_i hfraction
      have := length_le_of_readFraction hfraction
      split at h
      · simp at h
      · rename_i hexponent
        have := length_le_of_readExponent hexponent
        obtain ⟨-, rfl⟩ : _ ∧ _ = rest := by simpa using h
        omega

theorem length_lt_of_readNumeral {text rest : List Char} {n : Numeral}
    (h : readNumeral text = .ok (n, rest)) : rest.length < text.length := by
  unfold readNumeral at h
  split at h
  · have := length_lt_of_readUnsigned h
    simp only [List.length_cons]
    omega
  · exact length_lt_of_readUnsigned h

/-! ## Values -/

/-- Takes digits into a number as long as it stays within a limit; what is left begins with the
first digit that does not fit. -/
def absorb (limit number : Nat) : List Nat → Nat × List Nat
  | [] => (number, [])
  | digit :: rest =>
    if number * 10 + digit ≤ limit then absorb limit (number * 10 + digit) rest
    else (number, digit :: rest)

/-- The greatest significand. -/
def maxSignificand : Nat := 0xFFFFFFFFFFFFFFFF

/-- The greatest exponent that can be written; exponents saturate there. -/
def maxExponent : Nat := 0x7FFFFFFF

/-- An exponent within the bounds at which exponents saturate. -/
def saturated (exponent : Int) : Int :=
  max (-maxExponent - 1) (min maxExponent exponent)

/-- A double with the sign of a numeral. -/
def signed (negative : Bool) (x : Float) : Float :=
  if negative then -x else x

/-- The whole number of a significand with a sign, if it fits 64 bits; a negative zero does not. -/
def wholeNumber? (negative : Bool) (significand : Nat) : Option Int :=
  if negative then
    if 0 < significand ∧ significand ≤ 0x8000000000000000 then some (-significand) else none
  else some significand

/-- The number that a numeral stands for. Out of range, it gives how many of the numeral's last
digits lie behind the place where that shows.

A significand takes in digits while it fits 64 bits. Digits before the point that do not fit count
into the exponent instead; digits behind the point that do not fit are dropped. -/
def Numeral.value (n : Numeral) : Except Nat Number :=
  let (start, dropped) := absorb maxSignificand 0 n.whole
  let (significand, unused) := absorb maxSignificand start n.fraction
  let exponent : Int := dropped.length - (n.fraction.length - unused.length : Nat)
  let scaled (exponent : Int) : Except Nat Number :=
    match Decimal.scale? (Float.ofNat significand) exponent with
    | some x => .ok (.double (signed n.negative x))
    | none => .error 0
  match n.exponent with
  | none =>
    if n.fraction.isEmpty && dropped.isEmpty then
      match wholeNumber? n.negative significand with
      | some z => .ok (.integer z)
      | none => .ok (.double (signed n.negative (Float.ofNat significand)))
    else scaled exponent
  | some (negative, digits) =>
    match absorb maxExponent 0 digits with
    | (power, []) => scaled (saturated (if negative then exponent - power else exponent + power))
    | (_, _ :: behind) =>
      if significand ≠ 0 && !negative then .error behind.length
      else .ok (.double (signed n.negative 0))

/-- The reader of numbers. -/
def numeral : Reader Number where
  run text :=
    match readNumeral text with
    | .error fault => .error fault
    | .ok (n, rest) =>
      match n.value with
      | .ok read => .ok (read, rest)
      | .error behind => .error ⟨.numberOutOfRange, Utf8.size rest + behind⟩
  shortens := by
    intro text number rest h
    split at h
    · simp at h
    · rename_i hread
      have := length_lt_of_readNumeral hread
      split at h
      · obtain ⟨-, rfl⟩ : _ ∧ _ = rest := by simpa using h
        exact this
      · simp at h

end DiagnosticDigest.Json
