import DiagnosticDigest.Proofs.Json.Written
import Mathlib.Data.List.Basic

/-!
# Reading numbers

The reader of numbers takes exactly the written numbers that are in range. A number is read as far
as it goes, so it is found again only if what follows cannot continue it.

## Main definitions

* `Written.EndsNumber` — texts that cannot continue a number.
-/

namespace DiagnosticDigest.Json.Written

/-- Texts that cannot continue a number. -/
def EndsNumber (text : List Char) : Prop :=
  ∀ c ∈ text.head?, c.isDigit = false ∧ c ≠ '.' ∧ c ≠ 'e' ∧ c ≠ 'E'

/-- Texts that cannot continue the digits of a fraction, nor begin one. -/
def EndsFraction (text : List Char) : Prop :=
  ∀ c ∈ text.head?, c.isDigit = false ∧ c ≠ '.'

/-- Texts that cannot continue digits. -/
def EndsDigits (text : List Char) : Prop :=
  ∀ c ∈ text.head?, c.isDigit = false

theorem EndsFraction.endsDigits {text : List Char} (h : EndsFraction text) : EndsDigits text :=
  fun c hc => (h c hc).1

theorem EndsNumber.endsFraction {text : List Char} (h : EndsNumber text) : EndsFraction text :=
  fun c hc => ⟨(h c hc).1, (h c hc).2.1⟩

/-! ## Digits -/

theorem toNat_digitChar (d : Fin 10) : (digitChar d).toNat = 0x30 + d.val := by
  revert d
  decide

theorem isDigit_digitChar (d : Fin 10) : (digitChar d).isDigit = true := by
  revert d
  decide

theorem digitChar_ne_zero {d : Fin 10} (h : d ≠ 0) : digitChar d ≠ '0' := by
  revert d
  decide

theorem exists_digit {c : Char} (h : c.isDigit = true) :
    ∃ d : Fin 10, digitChar d = c ∧ d.val = c.toNat - 0x30 := by
  have hc : 0x30 ≤ c.toNat ∧ c.toNat ≤ 0x39 := by
    simpa [Char.isDigit, UInt32.le_iff_toNat_le] using h
  refine ⟨⟨c.toNat - 0x30, by omega⟩, ?_, rfl⟩
  rw [digitChar, show 0x30 + (c.toNat - 0x30) = c.toNat by omega, Char.ofNat_toNat]

theorem leadingDigits_digitsText (digits : List (Fin 10)) {rest : List Char}
    (h : EndsDigits rest) : leadingDigits (digitsText digits ++ rest) = digits.map Fin.val := by
  induction digits with
  | nil =>
    cases rest with
    | nil => rfl
    | cons c rest => simp [leadingDigits, digitsText, h c rfl]
  | cons d digits ih =>
    simp only [leadingDigits, digitsText, List.map_cons, List.cons_append,
      List.takeWhile_cons_of_pos (isDigit_digitChar d), toNat_digitChar,
      Nat.add_sub_cancel_left] at ih ⊢
    rw [ih]

theorem afterDigits_digitsText (digits : List (Fin 10)) {rest : List Char}
    (h : EndsDigits rest) : afterDigits (digitsText digits ++ rest) = rest := by
  induction digits with
  | nil =>
    cases rest with
    | nil => rfl
    | cons c rest => simp [afterDigits, digitsText, h c rfl]
  | cons d digits ih =>
    simp only [afterDigits, digitsText, List.map_cons, List.cons_append,
      List.dropWhile_cons_of_pos (isDigit_digitChar d)] at ih ⊢
    rw [ih]

/-- The digits at the front of a text, as they are written. -/
theorem exists_digits (text : List Char) :
    ∃ digits : List (Fin 10), leadingDigits text = digits.map Fin.val ∧
      text = digitsText digits ++ afterDigits text := by
  induction text with
  | nil => exact ⟨[], rfl, rfl⟩
  | cons c text ih =>
    by_cases hc : c.isDigit = true
    · obtain ⟨d, hd, hvalue⟩ := exists_digit hc
      obtain ⟨digits, hdigits, htext⟩ := ih
      refine ⟨d :: digits, ?_, ?_⟩
      · rw [leadingDigits, List.takeWhile_cons_of_pos hc, List.map_cons, List.map_cons, hvalue]
        exact congrArg _ hdigits
      · rw [afterDigits, List.dropWhile_cons_of_pos hc, digitsText, List.map_cons, hd,
          List.cons_append]
        exact congrArg _ htext
    · exact ⟨[], by simp [leadingDigits, hc], by simp [afterDigits, digitsText, hc]⟩

/-! ## The parts of a number -/

theorem readWhole_digitsText {digits : List (Fin 10)} (hne : digits ≠ [])
    (hzero : ∀ more, digits = 0 :: more → more = []) {rest : List Char} (h : EndsDigits rest) :
    readWhole (digitsText digits ++ rest) = .ok (digits.map Fin.val, rest) := by
  cases digits with
  | nil => exact absurd rfl hne
  | cons d digits =>
    by_cases hd : d = 0
    · subst hd
      obtain rfl := hzero digits rfl
      have hdigit : digitChar 0 = '0' := by
        decide
      cases rest with
      | nil => rfl
      | cons c rest => simp [digitsText, hdigit, readWhole, h c rfl]
    · have hlead := leadingDigits_digitsText (d :: digits) h
      have hafter := afterDigits_digitsText (d :: digits) h
      simp only [digitsText, List.map_cons, List.cons_append] at hlead hafter ⊢
      simp [readWhole, digitChar_ne_zero hd, isDigit_digitChar, hlead, hafter]

theorem exists_whole {text rest : List Char} {read : List Nat}
    (h : readWhole text = .ok (read, rest)) :
    ∃ digits : List (Fin 10), digits ≠ [] ∧ (∀ more, digits = 0 :: more → more = []) ∧
      read = digits.map Fin.val ∧ text = digitsText digits ++ rest := by
  have hzero : ∀ more : List (Fin 10), [0] = 0 :: more → more = [] := by
    intro more hmore
    simpa using hmore.symm
  rw [readWhole.eq_def] at h
  split at h
  · simp at h
  · rename_i c tail
    split at h
    · rename_i hc
      subst hc
      split at h
      · obtain ⟨rfl, rfl⟩ : [0] = read ∧ [] = rest := by simpa using h
        exact ⟨[0], by simp, hzero, rfl, rfl⟩
      · rename_i d more
        split at h
        · simp at h
        · obtain ⟨rfl, rfl⟩ : [0] = read ∧ d :: more = rest := by simpa using h
          exact ⟨[0], by simp, hzero, rfl, rfl⟩
    · rename_i hc
      split at h
      · rename_i hdigit
        obtain ⟨rfl, rfl⟩ : leadingDigits (c :: tail) = read ∧ afterDigits (c :: tail) = rest := by
          simpa using h
        obtain ⟨digits, hdigits, htext⟩ := exists_digits (c :: tail)
        refine ⟨digits, ?_, ?_, hdigits, htext⟩
        · rintro rfl
          simp [leadingDigits, hdigit] at hdigits
        · rintro more rfl
          exact absurd (List.cons.inj htext).1 hc
      · simp at h

theorem readFraction_fractionText (digits : List (Fin 10)) {rest : List Char}
    (h : EndsFraction rest) :
    readFraction (NumberText.fractionText digits ++ rest) = .ok (digits.map Fin.val, rest) := by
  cases digits with
  | nil =>
    cases rest with
    | nil => rfl
    | cons c rest => simp [NumberText.fractionText, readFraction, (h c rfl).2]
  | cons d digits =>
    have hlead := leadingDigits_digitsText (d :: digits) h.endsDigits
    have hafter := afterDigits_digitsText (d :: digits) h.endsDigits
    simp [NumberText.fractionText, readFraction, hlead, hafter]

theorem exists_fraction {text rest : List Char} {read : List Nat}
    (h : readFraction text = .ok (read, rest)) :
    ∃ digits : List (Fin 10), read = digits.map Fin.val ∧
      text = NumberText.fractionText digits ++ rest := by
  rw [readFraction.eq_def] at h
  split at h
  · rename_i tail
    obtain ⟨digits, hdigits, htext⟩ := exists_digits tail
    cases digits with
    | nil =>
      rw [hdigits] at h
      cases tail <;> simp at h
    | cons d digits =>
      rw [hdigits, List.map_cons] at h
      obtain ⟨rfl, rfl⟩ : _ = read ∧ afterDigits tail = rest := by simpa using h
      refine ⟨d :: digits, rfl, ?_⟩
      rw [NumberText.fractionText, List.cons_append, ← htext]
      exact List.cons_ne_nil _ _
  · obtain ⟨rfl, rfl⟩ : [] = read ∧ text = rest := by simpa using h
    exact ⟨[], rfl, rfl⟩

theorem readPower_digitsText {digits : List (Fin 10)} (hne : digits ≠ []) {rest : List Char}
    (h : EndsDigits rest) :
    readPower (digitsText digits ++ rest) = .ok (digits.map Fin.val, rest) := by
  cases digits with
  | nil => exact absurd rfl hne
  | cons d digits =>
    have hlead := leadingDigits_digitsText (d :: digits) h
    have hafter := afterDigits_digitsText (d :: digits) h
    simp [readPower, hlead, hafter]

theorem exists_power {text rest : List Char} {read : List Nat}
    (h : readPower text = .ok (read, rest)) :
    ∃ digits : List (Fin 10), digits ≠ [] ∧ read = digits.map Fin.val ∧
      text = digitsText digits ++ rest := by
  obtain ⟨digits, hdigits, htext⟩ := exists_digits text
  rw [readPower.eq_def] at h
  cases digits with
  | nil =>
    rw [hdigits] at h
    cases text <;> simp at h
  | cons d digits =>
    rw [hdigits, List.map_cons] at h
    obtain ⟨rfl, rfl⟩ : _ = read ∧ afterDigits text = rest := by simpa using h
    exact ⟨d :: digits, List.cons_ne_nil _ _, rfl, htext⟩

theorem digitChar_ne_sign (d : Fin 10) : digitChar d ≠ '+' ∧ digitChar d ≠ '-' := by
  revert d
  decide

theorem readExponent_text (e : Exponent) {rest : List Char} (h : EndsDigits rest) :
    readExponent (e.text ++ rest) = .ok (some e.power, rest) := by
  have hpower := readPower_digitsText e.digits_ne_nil h
  obtain ⟨capital, sign, digits, hne⟩ := e
  have hletter : (if capital then 'E' else 'e') = 'e' ∨ (if capital then 'E' else 'e') = 'E' := by
    cases capital <;> simp
  cases digits with
  | nil => exact absurd rfl hne
  | cons d digits =>
    obtain ⟨hplus, hminus⟩ := digitChar_ne_sign d
    rcases sign with _ | _ | _ <;>
      simp_all [readExponent, Exponent.text, Exponent.power, digitsText]

theorem readExponent_exponentText (exponent : Option Exponent) {rest : List Char}
    (h : EndsNumber rest) :
    readExponent (NumberText.exponentText exponent ++ rest) =
      .ok (exponent.map Exponent.power, rest) := by
  cases exponent with
  | some e => exact readExponent_text e h.endsFraction.endsDigits
  | none =>
    cases rest with
    | nil => rfl
    | cons c rest =>
      obtain ⟨-, -, hsmall, hcapital⟩ := h c rfl
      simp [NumberText.exponentText, readExponent, hsmall, hcapital]

theorem exists_exponent {text rest : List Char} {read : Option (Bool × List Nat)}
    (h : readExponent text = .ok (read, rest)) :
    ∃ exponent : Option Exponent, read = exponent.map Exponent.power ∧
      text = NumberText.exponentText exponent ++ rest := by
  rw [readExponent.eq_def] at h
  split at h
  · obtain ⟨rfl, rfl⟩ : none = read ∧ [] = rest := by simpa using h
    exact ⟨none, rfl, rfl⟩
  · rename_i c tail
    split at h
    · rename_i hletter
      have hcapital : ∃ capital : Bool, (if capital then 'E' else 'e') = c := by
        rcases (by simpa using hletter : c = 'e' ∨ c = 'E') with rfl | rfl
        · exact ⟨false, rfl⟩
        · exact ⟨true, rfl⟩
      obtain ⟨capital, rfl⟩ := hcapital
      split at h
      rename_i hsign
      split at h
      · simp at h
      · rename_i hpower
        obtain ⟨digits, hne, rfl, rfl⟩ := exists_power hpower
        obtain ⟨rfl, rfl⟩ : _ = read ∧ _ = rest := by simpa using h
        split at hsign <;> cases hsign
        · exact ⟨some ⟨capital, some false, digits, hne⟩, rfl, rfl⟩
        · exact ⟨some ⟨capital, some true, digits, hne⟩, rfl, rfl⟩
        · exact ⟨some ⟨capital, none, digits, hne⟩, rfl, rfl⟩
    · obtain ⟨rfl, rfl⟩ : none = read ∧ c :: tail = rest := by simpa using h
      exact ⟨none, rfl, rfl⟩

/-! ## Sign and parts together -/

theorem endsFraction_exponentText (exponent : Option Exponent) {rest : List Char}
    (h : EndsNumber rest) : EndsFraction (NumberText.exponentText exponent ++ rest) := by
  cases exponent with
  | none => exact h.endsFraction
  | some e =>
    intro c hc
    obtain rfl : (if e.capital then 'E' else 'e') = c := by
      simpa [NumberText.exponentText, Exponent.text] using hc
    split <;> decide

theorem endsDigits_fractionText (digits : List (Fin 10)) {rest : List Char}
    (h : EndsFraction rest) : EndsDigits (NumberText.fractionText digits ++ rest) := by
  cases digits with
  | nil => exact h.endsDigits
  | cons d digits =>
    intro c hc
    obtain rfl : '.' = c := by simpa [NumberText.fractionText] using hc
    rfl

theorem readUnsigned_unsignedText (n : NumberText) {rest : List Char} (h : EndsNumber rest) :
    readUnsigned n.negative (n.unsignedText ++ rest) = .ok (n.numeral, rest) := by
  have hexponent := endsFraction_exponentText n.exponent h
  have hfraction := endsDigits_fractionText n.fraction hexponent
  rw [readUnsigned, NumberText.unsignedText, List.append_assoc, List.append_assoc,
    readWhole_digitsText n.whole_ne_nil n.no_leading_zero hfraction]
  simp only
  rw [readFraction_fractionText n.fraction hexponent]
  simp only
  rw [readExponent_exponentText n.exponent h]
  rfl

theorem exists_unsigned {negative : Bool} {text rest : List Char} {read : Numeral}
    (h : readUnsigned negative text = .ok (read, rest)) :
    ∃ n : NumberText, n.negative = negative ∧ n.numeral = read ∧
      text = n.unsignedText ++ rest := by
  rw [readUnsigned] at h
  split at h
  · simp at h
  · rename_i hwhole
    obtain ⟨whole, hne, hzero, rfl, rfl⟩ := exists_whole hwhole
    split at h
    · simp at h
    · rename_i hfraction
      obtain ⟨fraction, rfl, rfl⟩ := exists_fraction hfraction
      split at h
      · simp at h
      · rename_i hexponent
        obtain ⟨exponent, rfl, rfl⟩ := exists_exponent hexponent
        obtain ⟨rfl, rfl⟩ : _ = read ∧ _ = rest := by simpa using h
        exact ⟨⟨negative, whole, fraction, exponent, hne, hzero⟩, rfl, rfl,
          by simp [NumberText.unsignedText]⟩

theorem readNumeral_text (n : NumberText) {rest : List Char} (h : EndsNumber rest) :
    readNumeral (n.text ++ rest) = .ok (n.numeral, rest) := by
  have hread := readUnsigned_unsignedText n h
  rw [NumberText.text]
  cases hsign : n.negative with
  | true =>
    rw [hsign] at hread
    exact hread
  | false =>
    rw [hsign] at hread
    -- A digit stands first, which is no sign.
    obtain ⟨d, digits, hwhole⟩ := List.exists_cons_of_ne_nil n.whole_ne_nil
    obtain ⟨-, hminus⟩ := digitChar_ne_sign d
    simp only [NumberText.unsignedText, hwhole, digitsText, List.map_cons,
      List.cons_append] at hread ⊢
    simpa [readNumeral, hminus] using hread

theorem exists_numeral {text rest : List Char} {read : Numeral}
    (h : readNumeral text = .ok (read, rest)) :
    ∃ n : NumberText, n.numeral = read ∧ text = n.text ++ rest := by
  rw [readNumeral.eq_def] at h
  split at h
  · obtain ⟨n, hsign, hread, rfl⟩ := exists_unsigned h
    exact ⟨n, hread, by rw [NumberText.text, hsign]; rfl⟩
  · obtain ⟨n, hsign, hread, rfl⟩ := exists_unsigned h
    exact ⟨n, hread, by rw [NumberText.text, hsign]; rfl⟩

/-- A number in range is read as far as it goes, unless what follows continues it. -/
theorem numeral_run {n : NumberText} (hn : n.InRange) {rest : List Char} (h : EndsNumber rest) :
    numeral.run (n.text ++ rest) = .ok (n.value, rest) := by
  obtain ⟨v, hv⟩ := hn
  simp only [numeral, readNumeral_text n h, hv, NumberText.value]

/-- What is read as a number is a written number in range. -/
theorem exists_inRange {text rest : List Char} {read : Json.Number}
    (h : numeral.run text = .ok (read, rest)) :
    ∃ n : NumberText, n.InRange ∧ n.value = read ∧ text = n.text ++ rest := by
  simp only [numeral] at h
  split at h
  · simp at h
  · rename_i hread
    obtain ⟨n, rfl, rfl⟩ := exists_numeral hread
    split at h
    · rename_i v hv
      obtain ⟨rfl, rfl⟩ : v = read ∧ _ = rest := by simpa using h
      exact ⟨n, ⟨v, hv⟩, by rw [NumberText.value, hv], rfl⟩
    · simp at h

end DiagnosticDigest.Json.Written
