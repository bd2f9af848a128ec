/-!
# UTF-8

Text is ordered and sized by its UTF-8 bytes, and lines of a stream are decoded from them. A fault
is reported where the longest decodable beginning ends.

## Main definitions

* `Utf8.encode`: the bytes of a text.
* `Utf8.Before`: the order of texts by their bytes, a proper beginning first.
* `Utf8.size`: how many bytes a list of characters takes.
* `Utf8.decode`, `Utf8.Fault`: the text that bytes encode, or where and how they fail to.
-/

namespace DiagnosticDigest.Utf8

/-! ## Encoding -/

/-- The bytes of a text. -/
def encode (text : String) : List UInt8 :=
  text.toByteArray.data.toList

/-- Different texts have different bytes. -/
theorem encode_injective {a b : String} (h : encode a = encode b) : a = b := by
  apply String.toByteArray_inj.mp
  cases ha : a.toByteArray
  cases hb : b.toByteArray
  simp [encode, ha, hb, Array.toList_inj] at h
  simp [h]

/-- How many bytes a list of characters takes. -/
def size : List Char → Nat
  | [] => 0
  | c :: rest => c.utf8Size + size rest

@[simp] theorem size_nil : size [] = 0 := rfl

@[simp] theorem size_cons (c : Char) (rest : List Char) :
    size (c :: rest) = c.utf8Size + size rest := rfl

@[simp] theorem size_append (a b : List Char) : size (a ++ b) = size a + size b := by
  induction a with
  | nil => simp
  | cons c a ih => simp [ih, Nat.add_assoc]

/-! ## Order -/

/-- The order of texts by their bytes, in which a proper beginning comes first. -/
def Before (a b : String) : Prop :=
  encode a < encode b

instance (a b : String) : Decidable (Before a b) :=
  inferInstanceAs (Decidable (encode a < encode b))

theorem Before.irrefl (a : String) : ¬ Before a a :=
  List.lt_irrefl (encode a)

theorem Before.trans {a b c : String} (hab : Before a b) (hbc : Before b c) : Before a c :=
  List.lt_trans hab hbc

/-- Of two different texts, one comes before the other. -/
theorem Before.of_not {a b : String} (hne : a ≠ b) (h : ¬ Before a b) : Before b a := by
  rcases Decidable.em (Before b a) with hba | hba
  · exact hba
  · exact absurd (encode_injective (List.le_antisymm hba h)) hne

/-! ## Decoding -/

/-- How bytes fail to be UTF-8: they cannot be continued to a text, or they end inside a character.
Either way `index` bytes before the fault are a text. -/
inductive Fault where
  | invalid (length index : Nat)
  | incomplete (index : Nat)
  deriving DecidableEq

/-- The wording of a fault. -/
def Fault.message : Fault → String
  | .invalid length index => s!"invalid utf-8 sequence of {length} bytes from index {index}"
  | .incomplete index => s!"incomplete utf-8 byte sequence from index {index}"

/-- Whether a byte continues a character. -/
def continues (b : UInt8) : Bool :=
  0x80 ≤ b && b ≤ 0xBF

/-- How many bytes a character takes that starts with a byte; no character starts with a
continuation byte, with a byte that would only start overlong forms, or with one above `0xF4`. -/
def sequenceLength? (lead : UInt8) : Option Nat :=
  if lead ≤ 0x7F then some 1
  else if lead < 0xC2 then none
  else if lead ≤ 0xDF then some 2
  else if lead ≤ 0xEF then some 3
  else if lead ≤ 0xF4 then some 4
  else none

/-- Whether a second byte may follow a first one. After `0xE0` and `0xF0` overlong forms are left
out, after `0xED` surrogates, after `0xF4` values above `0x10FFFF`. -/
def mayFollow (lead second : UInt8) : Bool :=
  if lead = 0xE0 then 0xA0 ≤ second && second ≤ 0xBF
  else if lead = 0xED then 0x80 ≤ second && second ≤ 0x9F
  else if lead = 0xF0 then 0x90 ≤ second && second ≤ 0xBF
  else if lead = 0xF4 then 0x80 ≤ second && second ≤ 0x8F
  else continues second

/-- The bits that a continuation byte carries. -/
def payload (b : UInt8) : Nat :=
  b.toNat % 0x40

/-- The character of a two-byte sequence. -/
def ofTwo (a b : UInt8) : Char :=
  Char.ofNat (a.toNat % 0x20 * 0x40 + payload b)

/-- The character of a three-byte sequence. -/
def ofThree (a b c : UInt8) : Char :=
  Char.ofNat (a.toNat % 0x10 * 0x1000 + payload b * 0x40 + payload c)

/-- The character of a four-byte sequence. -/
def ofFour (a b c d : UInt8) : Char :=
  Char.ofNat (a.toNat % 0x08 * 0x40000 + payload b * 0x1000 + payload c * 0x40 + payload d)

/-- Decodes bytes that stand at `index`, after the characters `done`, the latest first. -/
def decodeFrom (index : Nat) (done : List Char) : List UInt8 → Except Fault (List Char)
  | [] => .ok done.reverse
  | a :: rest =>
    match sequenceLength? a with
    | some 1 => decodeFrom (index + 1) (Char.ofNat a.toNat :: done) rest
    | some 2 =>
      match rest with
      | [] => .error (.incomplete index)
      | b :: rest =>
        if mayFollow a b then decodeFrom (index + 2) (ofTwo a b :: done) rest
        else .error (.invalid 1 index)
    | some 3 =>
      match rest with
      | [] => .error (.incomplete index)
      | b :: rest =>
        if mayFollow a b then
          match rest with
          | [] => .error (.incomplete index)
          | c :: rest =>
            if continues c then decodeFrom (index + 3) (ofThree a b c :: done) rest
            else .error (.invalid 2 index)
        else .error (.invalid 1 index)
    | some _ =>
      match rest with
      | [] => .error (.incomplete index)
      | b :: rest =>
        if mayFollow a b then
          match rest with
          | [] => .error (.incomplete index)
          | c :: rest =>
            if continues c then
              match rest with
              | [] => .error (.incomplete index)
              | d :: rest =>
                if continues d then decodeFrom (index + 4) (ofFour a b c d :: done) rest
                else .error (.invalid 3 index)
            else .error (.invalid 2 index)
        else .error (.invalid 1 index)
    | none => .error (.invalid 1 index)

/-- The text that bytes encode, or the fault in them. -/
def decode (bytes : List UInt8) : Except Fault String :=
  (decodeFrom 0 [] bytes).map String.ofList

end DiagnosticDigest.Utf8
