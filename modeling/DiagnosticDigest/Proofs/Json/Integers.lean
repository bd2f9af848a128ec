import DiagnosticDigest.Decimal.Layout
import DiagnosticDigest.Proofs.Json.Unambiguous
import Mathlib.Data.Nat.Digits.Defs

/-!
# Literals of whole numbers

Every integer has one decimal literal, and that is also how it is written. From `-2 ^ 63` up to
`2 ^ 64 - 1` the literal is read as the integer. Outside of that no digit is lost without a trace: what
is read is a double, or nothing.

## Main definitions

* `appended` — the number that digits make behind those of another number.
* `Fits` — integers of 64 bits, with a sign or without.
* `Written.NumberText.Denotes` — a number is the decimal literal of an integer.
-/

namespace DiagnosticDigest.Json

open Written

/-! ## Digits -/

/-- The number that digits make behind those of another number. -/
def appended (m : Nat) (digits : List Nat) : Nat :=
  digits.foldl (fun n d => n * 10 + d) m

theorem appended_cons (m d : Nat) (digits : List Nat) :
    appended m (d :: digits) = appended (m * 10 + d) digits := rfl

theorem le_appended (m : Nat) (digits : List Nat) : m ≤ appended m digits := by
  induction digits generalizing m with
  | nil => exact Nat.le_refl m
  | cons d digits ih =>
    have hstep : m ≤ m * 10 + d := by omega
    exact hstep.trans (ih _)

/-- The place value of digits, from the last one up. -/
theorem ofDigits_reverse (digits : List Nat) :
    Nat.ofDigits 10 digits.reverse = appended 0 digits := by
  rw [Nat.ofDigits_eq_foldr, List.foldr_reverse, appended]
  congr 1
  funext n d
  rw [Nat.cast_id, Nat.mul_comm, Nat.add_comm]

/-- Digits within a limit are taken in completely. -/
theorem absorb_of_le {limit m : Nat} {digits : List Nat} (h : appended m digits ≤ limit) :
    absorb limit m digits = (appended m digits, []) := by
  induction digits generalizing m with
  | nil => rfl
  | cons d digits ih =>
    rw [appended_cons] at h
    rw [absorb, if_pos ((le_appended _ digits).trans h), ih h, appended_cons]

/-- Of digits that go beyond a limit some are left. -/
theorem absorb_of_lt {limit m : Nat} {digits : List Nat} (hm : m ≤ limit)
    (h : limit < appended m digits) : (absorb limit m digits).2 ≠ [] := by
  induction digits generalizing m with
  | nil => exact absurd hm (Nat.not_le.mpr h)
  | cons d digits ih =>
    rw [absorb]
    split
    · rename_i hle
      exact ih hle h
    · exact List.cons_ne_nil d digits

theorem toDigits_digit (d : Fin 10) : Nat.toDigits 10 d.val = [digitChar d] := by
  revert d
  decide

/-- Digits are written behind those of a number as the number that they make together. -/
theorem toDigits_appended {m : Nat} (hm : 0 < m) (digits : List (Fin 10)) :
    Nat.toDigits 10 m ++ digitsText digits =
      Nat.toDigits 10 (appended m (digits.map Fin.val)) := by
  induction digits generalizing m with
  | nil => exact List.append_nil _
  | cons d digits ih =>
    calc Nat.toDigits 10 m ++ digitsText (d :: digits)
        = Nat.toDigits 10 m ++ Nat.toDigits 10 d.val ++ digitsText digits := by
          rw [toDigits_digit, List.append_assoc]
          rfl
      _ = Nat.toDigits 10 (10 * m + d.val) ++ digitsText digits := by
          rw [Nat.toDigits_append_toDigits (by decide) hm d.isLt]
      _ = Nat.toDigits 10 (appended m ((d :: digits).map Fin.val)) := by
          rw [Nat.mul_comm, ih (by omega)]
          rfl

/-- Digits without a leading zero are those of the number that they make. -/
theorem digitsText_eq_toDigits {digits : List (Fin 10)} (hne : digits ≠ [])
    (hzero : ∀ more, digits = 0 :: more → more = []) :
    digitsText digits = Nat.toDigits 10 (appended 0 (digits.map Fin.val)) := by
  obtain ⟨d, digits, rfl⟩ := List.exists_cons_of_ne_nil hne
  rw [List.map_cons, appended_cons, Nat.zero_mul, Nat.zero_add]
  by_cases hd : d = 0
  · obtain rfl := hzero digits (hd ▸ rfl)
    exact (toDigits_digit d).symm
  · have hpos : 0 < d.val := Nat.pos_of_ne_zero fun h => hd (Fin.ext h)
    rw [← toDigits_appended hpos, toDigits_digit]
    rfl

/-- Every number has decimal digits, which begin with a zero only if the number is zero. -/
theorem exists_decimal (n : Nat) :
    ∃ digits : List (Fin 10), digits ≠ [] ∧ (∀ more, digits = 0 :: more → n = 0 ∧ more = []) ∧
      appended 0 (digits.map Fin.val) = n := by
  induction n using Nat.strongRecOn with
  | ind n ih =>
    by_cases hn : n < 10
    · refine ⟨[⟨n, hn⟩], by simp, ?_, by simp [appended]⟩
      intro more hmore
      obtain ⟨hzero, rfl⟩ := List.cons.inj hmore
      exact ⟨congrArg Fin.val hzero, rfl⟩
    · obtain ⟨digits, hne, hzero, hdigits⟩ := ih (n / 10) (by omega)
      refine ⟨digits ++ [⟨n % 10, by omega⟩], by simp, ?_, ?_⟩
      · intro more hmore
        obtain ⟨d, others, rfl⟩ := List.exists_cons_of_ne_nil hne
        obtain ⟨rfl, -⟩ := List.cons.inj hmore
        have := (hzero others rfl).1
        omega
      · rw [appended] at hdigits
        rw [appended, List.map_append, List.foldl_append, hdigits]
        simp only [List.map_cons, List.map_nil, List.foldl_cons, List.foldl_nil]
        omega

/-! ## Literals -/

theorem Written.endsNumber_nil : EndsNumber [] := by
  intro c hc
  simp at hc

/-- Integers of 64 bits, with a sign or without. -/
def Fits (z : Int) : Prop :=
  -2 ^ 63 ≤ z ∧ z ≤ 2 ^ 64 - 1

/-- A number is the decimal literal of an integer: its digits, without point and exponent, make up the
magnitude, and there is a sign exactly if the integer is negative. -/
structure Written.NumberText.Denotes (n : NumberText) (z : Int) : Prop where
  fraction : n.fraction = []
  exponent : n.exponent = none
  sign : n.negative = decide (z < 0)
  magnitude : Nat.ofDigits 10 (n.whole.map Fin.val).reverse = z.natAbs

namespace Written.NumberText

theorem Denotes.appended_eq {n : NumberText} {z : Int} (h : n.Denotes z) :
    appended 0 (n.whole.map Fin.val) = z.natAbs := by
  rw [← ofDigits_reverse, h.magnitude]

/-- A literal is what its integer is written as. -/
theorem Denotes.text_eq {n : NumberText} {z : Int} (h : n.Denotes z) :
    n.text = Decimal.writeInteger z := by
  have hunsigned : n.unsignedText = Decimal.digitChars z.natAbs := by
    rw [unsignedText, h.fraction, h.exponent,
      digitsText_eq_toDigits n.whole_ne_nil n.no_leading_zero, h.appended_eq]
    simp [fractionText, exponentText, Decimal.digitChars]
  rw [text, hunsigned, h.sign, Decimal.writeInteger]
  simp

/-- An integer has one literal only. -/
theorem Denotes.unique {n m : NumberText} {z : Int} (hn : n.Denotes z) (hm : m.Denotes z) :
    n = m := by
  have htext : n.text ++ [] = m.text ++ [] := by
    rw [hn.text_eq, hm.text_eq]
  exact (text_inj endsNumber_nil endsNumber_nil htext).1

/-- A literal is that of one integer only. -/
theorem Denotes.integer_unique {n : NumberText} {z w : Int} (hz : n.Denotes z) (hw : n.Denotes w) :
    z = w := by
  have hsign : z < 0 ↔ w < 0 := by
    rw [← decide_eq_decide, ← hz.sign, hw.sign]
  have hmagnitude : z.natAbs = w.natAbs := by
    rw [← hz.magnitude, hw.magnitude]
  omega

/-- An integer has a literal. -/
theorem exists_denotes (z : Int) : ∃ n : NumberText, n.Denotes z := by
  obtain ⟨digits, hne, hzero, hdigits⟩ := exists_decimal z.natAbs
  refine ⟨⟨decide (z < 0), digits, [], none, hne, fun more h => (hzero more h).2⟩, rfl, rfl, rfl, ?_⟩
  rw [ofDigits_reverse, hdigits]

end Written.NumberText

/-! ## Values -/

/-- What is scaled is no integer. -/
theorem ne_integer_of_scaled (scaled : Option Float) (negative : Bool) (z : Int) :
    (match scaled with
      | some x => (.ok (.double (signed negative x)) : Except Nat Number)
      | none => .error 0) ≠ .ok (.integer z) := by
  cases scaled <;> simp

/-- Only a numeral without point and exponent, whose digits are all taken in, is an integer. -/
theorem Numeral.parts_of_value_eq_integer {n : Numeral} {z : Int}
    (h : n.value = .ok (.integer z)) :
    n.fraction = [] ∧ n.exponent = none ∧ (absorb maxSignificand 0 n.whole).2 = [] ∧
      wholeNumber? n.negative (absorb maxSignificand 0 n.whole).1 = some z := by
  obtain ⟨negative, whole, fraction, exponent⟩ := n
  cases exponent with
  | none =>
    simp only [Numeral.value] at h
    split at h
    · rename_i hempty
      simp only [Bool.and_eq_true, List.isEmpty_iff] at hempty
      obtain ⟨rfl, hdropped⟩ := hempty
      refine ⟨rfl, rfl, hdropped, ?_⟩
      rw [absorb] at h
      split at h
      · rename_i w hw
        obtain rfl : w = z := by simpa using h
        exact hw
      · simp at h
    · exact absurd h (ne_integer_of_scaled _ _ _)
  | some power =>
    obtain ⟨below, digits⟩ := power
    simp only [Numeral.value] at h
    split at h
    · exact absurd h (ne_integer_of_scaled _ _ _)
    · split at h <;> simp at h

theorem Fits.natAbs_le {z : Int} (h : Fits z) : z.natAbs ≤ maxSignificand := by
  rw [Fits] at h
  rw [maxSignificand]
  omega

/-- A significand with a sign is the integer of that sign and magnitude, if it fits 64 bits. -/
theorem wholeNumber?_eq_some_iff {negative : Bool} {significand : Nat} {z : Int}
    (hle : significand ≤ maxSignificand) :
    wholeNumber? negative significand = some z ↔
      negative = decide (z < 0) ∧ significand = z.natAbs ∧ Fits z := by
  rw [maxSignificand] at hle
  rw [wholeNumber?, Fits]
  cases negative with
  | true =>
    rw [if_pos rfl, eq_comm (a := true), decide_eq_true_iff]
    split
    · rw [Option.some.injEq]
      omega
    · simp only [reduceCtorEq, false_iff]
      omega
  | false =>
    rw [if_neg (by decide), eq_comm (a := false), decide_eq_false_iff_not, Option.some.injEq]
    omega

namespace Written.NumberText

/-- A number is read as an integer exactly if it is the integer's literal and the integer fits 64
bits. -/
theorem value_eq_integer_iff {n : NumberText} {z : Int} :
    n.numeral.value = .ok (.integer z) ↔ n.Denotes z ∧ Fits z := by
  constructor
  · intro h
    obtain ⟨hfraction, hexponent, hdropped, hwhole⟩ := Numeral.parts_of_value_eq_integer h
    have hle : appended 0 (n.whole.map Fin.val) ≤ maxSignificand := by
      by_contra hgt
      exact absorb_of_lt (Nat.zero_le _) (Nat.lt_of_not_le hgt) hdropped
    have habsorb : (absorb maxSignificand 0 n.numeral.whole).1 =
        appended 0 (n.whole.map Fin.val) := by
      rw [numeral, absorb_of_le hle]
    rw [habsorb, wholeNumber?_eq_some_iff hle] at hwhole
    obtain ⟨hsign, hmagnitude, hfits⟩ := hwhole
    refine ⟨⟨List.map_eq_nil_iff.mp hfraction, Option.map_eq_none_iff.mp hexponent, hsign, ?_⟩,
      hfits⟩
    rw [ofDigits_reverse, hmagnitude]
  · rintro ⟨h, hfits⟩
    have habsorb : absorb maxSignificand 0 (n.whole.map Fin.val) = (z.natAbs, []) := by
      rw [absorb_of_le] <;> rw [h.appended_eq]
      exact hfits.natAbs_le
    have hwhole := (wholeNumber?_eq_some_iff hfits.natAbs_le).mpr ⟨h.sign, rfl, hfits⟩
    simp [Numeral.value, numeral, h.fraction, h.exponent, habsorb, absorb, hwhole]

end Written.NumberText

/-! ## Texts -/

/-- A literal without anything around it, as a text. -/
def Written.NumberText.toText (n : NumberText) : String :=
  String.ofList n.text

theorem Written.Tree.writes_number (n : NumberText) : (Tree.number n).Writes n.toText :=
  ⟨.none, .none, by simp [Blanks.none, Tree.text, NumberText.toText]⟩

/-- A number that its conversion gives no value is a fault. -/
theorem parse_of_value_error {n : NumberText} {behind : Nat}
    (h : n.numeral.value = .error behind) :
    parse n.toText = .error ⟨.numberOutOfRange, behind⟩ := by
  have hskip : skipBlanks n.text = n.text ++ [] := by
    simpa [Blanks.none, Tree.text] using skipBlanks_tree .none (.number n) []
  have hrun : numeral.run (n.text ++ []) = .error ⟨.numberOutOfRange, behind⟩ := by
    simp only [numeral, readNumeral_text n endsNumber_nil, h, Utf8.size_nil, Nat.zero_add]
  have hread : (value maxDepth).run n.text = .error ⟨.numberOutOfRange, behind⟩ := by
    change readValue _ n.text = _
    rw [readValue_numberText n _ hskip, hrun]
  rw [parse, parseChars, NumberText.toText, String.toList_ofList, hread]

/-- A number is read as its value, or is a fault of being out of range. -/
theorem parse_toText (n : NumberText) :
    parse n.toText =
      match n.numeral.value with
      | .ok read => .ok (.number read)
      | .error behind => .error ⟨.numberOutOfRange, behind⟩ := by
  cases hvalue : n.numeral.value with
  | ok read =>
    refine (Tree.writes_number n).parse_eq_ok_iff.mpr ⟨admitted_number ⟨read, hvalue⟩ maxDepth, ?_⟩
    rw [Tree.value, NumberText.value, hvalue]
  | error behind => exact parse_of_value_error hvalue

/-- The literal of an integer that fits 64 bits is read as the integer. -/
theorem parse_of_fits {n : NumberText} {z : Int} (hn : n.Denotes z) (hz : Fits z) :
    parse n.toText = .ok (.number (.integer z)) := by
  rw [parse_toText, NumberText.value_eq_integer_iff.mpr ⟨hn, hz⟩]

/-- The literal of an integer that does not fit 64 bits is read as a double, or is out of range. -/
theorem parse_of_not_fits {n : NumberText} {z : Int} (hn : n.Denotes z) (hz : ¬ Fits z) :
    (∃ x, parse n.toText = .ok (.number (.double x))) ∨
      ∃ fault, parse n.toText = .error fault ∧ fault.cause = .numberOutOfRange := by
  rw [parse_toText]
  cases hvalue : n.numeral.value with
  | error behind => exact .inr ⟨_, rfl, rfl⟩
  | ok read =>
    cases read with
    | double x => exact .inl ⟨x, rfl⟩
    | integer w =>
      obtain ⟨hw, hfits⟩ := NumberText.value_eq_integer_iff.mp hvalue
      exact absurd (hn.integer_unique hw ▸ hfits) hz

end DiagnosticDigest.Json
