import DiagnosticDigest.Proofs.Utf8

/-!
# The order of texts by bytes and by code points

The bytes of a character with a smaller code point come before those of one with a greater code point,
whatever follows either. So comparing texts by their bytes is comparing them by their code points,
and the bytes of a character are never the beginning of those of another one.

## Main definitions

* `Utf8.BeforeByCodePoints` — the order of texts by their code points, a proper beginning first.

## Main statements

* `Utf8.utf8EncodeChar_append_lt` — characters in order have their bytes in order.
* `Utf8.utf8EncodeChar_append_inj` — the character at the front of some bytes is known.
* `Utf8.before_iff` — the two orders are the same.
-/

namespace DiagnosticDigest.Utf8

/-! ## Characters -/

/-- The bytes of a character as numbers: the code point by digits of six bits, of which the first
stands in a byte that tells how many follow. -/
theorem map_toNat_utf8EncodeChar (c : Char) :
    (String.utf8EncodeChar c).map UInt8.toNat =
      if c.toNat < 0x80 then [c.toNat]
      else if c.toNat < 0x800 then [0xC0 + c.toNat / 64, 0x80 + c.toNat % 64]
      else if c.toNat < 0x10000 then
        [0xE0 + c.toNat / 64 / 64, 0x80 + c.toNat / 64 % 64, 0x80 + c.toNat % 64]
      else
        [0xF0 + c.toNat / 64 / 64 / 64, 0x80 + c.toNat / 64 / 64 % 64, 0x80 + c.toNat / 64 % 64,
          0x80 + c.toNat % 64] := by
  have hc := toNat_isValidChar c
  simp only [Nat.isValidChar] at hc
  simp only [String.utf8EncodeChar, Char.toNat_val]
  split
  · rw [if_pos (by omega)]
    simp only [List.map_cons, List.map_nil, UInt8.toNat_ofNat', List.cons.injEq, and_true]
    omega
  split
  · rw [if_neg (by omega), if_pos (by omega)]
    simp only [List.map_cons, List.map_nil, UInt8.toNat_ofNat', List.cons.injEq, and_true]
    omega
  split
  · rw [if_neg (by omega), if_neg (by omega), if_pos (by omega)]
    simp only [List.map_cons, List.map_nil, UInt8.toNat_ofNat', List.cons.injEq, and_true]
    omega
  · rw [if_neg (by omega), if_neg (by omega), if_neg (by omega)]
    simp only [List.map_cons, List.map_nil, UInt8.toNat_ofNat', List.cons.injEq, and_true]
    omega

/-- Bytes are compared as numbers. -/
theorem map_toNat_lt_iff {a b : List UInt8} : a.map UInt8.toNat < b.map UInt8.toNat ↔ a < b := by
  induction a generalizing b with
  | nil => cases b <;> simp
  | cons x a ih =>
    cases b with
    | nil => simp
    | cons y b =>
      simp only [List.map_cons, List.cons_lt_cons_iff, ih, UInt8.toNat_inj, UInt8.lt_iff_toNat_lt]

/-- Of two numbers in order, the digits of six bits decide: those in front of the last one, or the last
one if the others are the same. -/
theorem lt_by_last_digit {n m : Nat} (h : n < m) :
    n / 64 < m / 64 ∨ n / 64 = m / 64 ∧ n % 64 < m % 64 := by
  omega

/-- The bytes of a character with a smaller code point come first, whatever follows. -/
theorem utf8EncodeChar_append_lt {c d : Char} (h : c.toNat < d.toNat) (x y : List UInt8) :
    String.utf8EncodeChar c ++ x < String.utf8EncodeChar d ++ y := by
  have hc := toNat_isValidChar c
  have hd := toNat_isValidChar d
  simp only [Nat.isValidChar] at hc hd
  rw [← map_toNat_lt_iff, List.map_append, List.map_append, map_toNat_utf8EncodeChar,
    map_toNat_utf8EncodeChar]
  generalize c.toNat = n at *
  generalize d.toNat = m at *
  have hlast := lt_by_last_digit h
  have hthird : n / 64 < m / 64 → _ := lt_by_last_digit
  have hsecond : n / 64 / 64 < m / 64 / 64 → _ := lt_by_last_digit
  -- different lengths show in the first byte, and else one of the digits decides
  split
  · split
    · simp only [List.cons_append, List.cons_lt_cons_iff]
      omega
    split
    · simp only [List.cons_append, List.cons_lt_cons_iff]
      omega
    split <;> simp only [List.cons_append, List.cons_lt_cons_iff] <;> omega
  split
  · rw [if_neg (by omega)]
    split
    · simp only [List.cons_append, List.cons_lt_cons_iff]
      omega
    split <;> simp only [List.cons_append, List.cons_lt_cons_iff] <;> omega
  split
  · rw [if_neg (by omega), if_neg (by omega)]
    split <;> simp only [List.cons_append, List.cons_lt_cons_iff] <;> omega
  · rw [if_neg (by omega), if_neg (by omega), if_neg (by omega)]
    simp only [List.cons_append, List.cons_lt_cons_iff]
    omega

/-- The character at the front of some bytes is known, and what follows it. -/
theorem utf8EncodeChar_append_inj {c d : Char} {x y : List UInt8}
    (h : String.utf8EncodeChar c ++ x = String.utf8EncodeChar d ++ y) : c = d ∧ x = y := by
  have hcd : ¬ c.toNat < d.toNat := by
    intro hlt
    have hbefore := utf8EncodeChar_append_lt hlt x y
    rw [h] at hbefore
    exact List.lt_irrefl _ hbefore
  have hdc : ¬ d.toNat < c.toNat := by
    intro hlt
    have hbefore := utf8EncodeChar_append_lt hlt y x
    rw [h] at hbefore
    exact List.lt_irrefl _ hbefore
  have hsame : c.toNat = d.toNat := by omega
  obtain rfl : c = d := by rw [← Char.ofNat_toNat c, hsame, Char.ofNat_toNat]
  exact ⟨rfl, List.append_cancel_left h⟩

/-! ## Texts -/

theorem append_lt_append_iff (a : List UInt8) {x y : List UInt8} : a ++ x < a ++ y ↔ x < y := by
  induction a with
  | nil => rfl
  | cons b a ih => simp [ih]

theorem flatMap_utf8EncodeChar_lt_iff {a b : List Char} :
    a.flatMap String.utf8EncodeChar < b.flatMap String.utf8EncodeChar ↔
      a.map Char.toNat < b.map Char.toNat := by
  induction a generalizing b with
  | nil =>
    cases b with
    | nil => simp
    | cons d b =>
      have hne : (d :: b).flatMap String.utf8EncodeChar ≠ [] := by simp
      obtain ⟨first, more, hbytes⟩ := List.exists_cons_of_ne_nil hne
      rw [hbytes]
      simp
  | cons c a ih =>
    cases b with
    | nil => simp
    | cons d b =>
      rw [List.flatMap_cons, List.flatMap_cons, List.map_cons, List.map_cons, List.cons_lt_cons_iff]
      rcases Nat.lt_trichotomy c.toNat d.toNat with hlt | heq | hgt
      · simp [hlt, utf8EncodeChar_append_lt hlt]
      · obtain rfl : c = d := by rw [← Char.ofNat_toNat c, heq, Char.ofNat_toNat]
        simp [append_lt_append_iff, ih]
      · have hafter := List.lt_asymm (utf8EncodeChar_append_lt hgt
          (b.flatMap String.utf8EncodeChar) (a.flatMap String.utf8EncodeChar))
        have hne : c.toNat ≠ d.toNat := by omega
        simp [hafter, hne, Nat.le_of_lt hgt]

/-- The order of texts by their code points, in which a proper beginning comes first. -/
def BeforeByCodePoints (a b : String) : Prop :=
  a.toList.map Char.toNat < b.toList.map Char.toNat

instance (a b : String) : Decidable (BeforeByCodePoints a b) :=
  inferInstanceAs (Decidable (a.toList.map Char.toNat < b.toList.map Char.toNat))

/-- Texts stand in the same order by their bytes and by their code points. -/
theorem before_iff {a b : String} : Before a b ↔ BeforeByCodePoints a b := by
  rw [Before, encode_eq_flatMap, encode_eq_flatMap, flatMap_utf8EncodeChar_lt_iff,
    BeforeByCodePoints]

/-- A character beyond the first 65536 comes last, where an order by units of 16 bits would have it
before the full-width letters. -/
example : Before "Ａ" "😀" ∧ BeforeByCodePoints "Ａ" "😀" := by
  decide +kernel

end DiagnosticDigest.Utf8
