import DiagnosticDigest.Json.Compact
import DiagnosticDigest.Proofs.Json.Integers

/-!
# Written doubles

However a double is laid out, with a point or with an exponent, it is a number as the grammar has it:
no zero leads it, and there are digits on both sides of a point. That needs the shortest decimal of a
positive double to have a digit other than zero.
-/

namespace DiagnosticDigest

/-! ## Shortest decimals -/

namespace Decimal

theorem compareScaled_zero (i j : Int) {n : Nat} (hn : 0 < n) : compareScaled 0 i n j = .lt := by
  rw [compareScaled, Nat.zero_mul, Nat.zero_mul, Nat.compare_eq_lt]
  exact Nat.mul_pos (Nat.mul_pos hn (Nat.pow_pos (by decide))) (Nat.pow_pos (by decide))

/-- Zero does not read back to a positive double. -/
theorem Binary.digits_pos_of_readsBack {x : Binary} (hx : x.mantissa ≠ 0) {d : Decimal}
    (h : x.readsBack d = true) : d.digits ≠ 0 := by
  intro hzero
  have hlow : 0 < if x.closeBelow then 4 * x.mantissa - 1 else 4 * x.mantissa - 2 := by
    split <;> omega
  rw [readsBack, hzero] at h
  simp [compareScaled_zero _ _ hlow] at h

theorem Binary.readsBack_of_onGrid? {x : Binary} {exponent : Int} {d : Decimal}
    (h : x.onGrid? exponent = some d) : x.readsBack d = true := by
  rw [onGrid?] at h
  split at h
  · simp at h
  · rename_i hbelow habove
    obtain rfl := Option.some.inj h
    exact hbelow
  · rename_i hbelow habove
    obtain rfl := Option.some.inj h
    exact habove
  · rename_i hbelow habove
    split at h <;> obtain rfl := Option.some.inj h
    · exact hbelow
    · exact habove
    · split
      · exact hbelow
      · exact habove

theorem digits_dropZeros {digits : Nat} (h : digits ≠ 0) (exponent : Int) :
    (dropZeros digits exponent).digits ≠ 0 := by
  fun_induction dropZeros digits exponent with
  | case1 digits exponent hzero ih => exact ih (by omega)
  | case2 => exact h

theorem Binary.digits_exact {x : Binary} (hx : x.mantissa ≠ 0) : x.exact.digits ≠ 0 := by
  have htwo : Nat.pow 2 x.exponent.toNat ≠ 0 := Nat.ne_of_gt (Nat.pow_pos (by decide))
  have hfive : Nat.pow 5 (-x.exponent).toNat ≠ 0 := Nat.ne_of_gt (Nat.pow_pos (by decide))
  rw [Binary.exact]
  exact Nat.mul_ne_zero (Nat.mul_ne_zero hx htwo) hfive

/-- The shortest decimal of a positive double is positive. -/
theorem digits_shortest {x : Binary} (hx : x.mantissa ≠ 0) : (shortest x).digits ≠ 0 := by
  unfold shortest
  dsimp only
  split
  · rename_i d hd
    obtain ⟨n, -, hgrid⟩ := List.exists_of_findSome?_eq_some hd
    exact digits_dropZeros
      (Binary.digits_pos_of_readsBack hx (Binary.readsBack_of_onGrid? hgrid)) _
  · exact digits_dropZeros (Binary.digits_exact hx) _

end Decimal

/-! ## Layouts -/

namespace Json

open Written

/-- Texts of numbers without a sign. -/
def Written.IsUnsigned (text : List Char) : Prop :=
  ∃ n : NumberText, n.unsignedText = text

/-- A sign may stand before such a text, or none. -/
theorem exists_text_of_isUnsigned {text : List Char} (h : IsUnsigned text) :
    (∃ n : NumberText, n.text = text) ∧ ∃ n : NumberText, n.text = '-' :: text := by
  obtain ⟨n, rfl⟩ := h
  exact ⟨⟨{ n with negative := false }, rfl⟩, ⟨{ n with negative := true }, rfl⟩⟩

/-- The digits of a positive number, of which the first is not zero. -/
theorem exists_digitChars {n : Nat} (hn : n ≠ 0) :
    ∃ digits : List (Fin 10), digits ≠ [] ∧ digitsText digits = Decimal.digitChars n ∧
      ∀ more, digits ≠ 0 :: more := by
  obtain ⟨digits, hne, hzero, rfl⟩ := exists_decimal n
  exact ⟨digits, hne, digitsText_eq_toDigits hne fun more h => (hzero more h).2,
    fun more h => hn (hzero more h).1⟩

theorem digitsText_append (digits others : List (Fin 10)) :
    digitsText (digits ++ others) = digitsText digits ++ digitsText others :=
  List.map_append

theorem digitsText_replicate (n : Nat) :
    digitsText (List.replicate n 0) = Decimal.zeros n := by
  rw [digitsText, List.map_replicate, Decimal.zeros]
  rfl

/-- Digits with a point between them. -/
theorem isUnsigned_point {whole fraction : List (Fin 10)} (hwhole : whole ≠ [])
    (hzero : ∀ more, whole = 0 :: more → more = []) (hfraction : fraction ≠ []) :
    IsUnsigned (digitsText whole ++ '.' :: digitsText fraction) := by
  obtain ⟨d, digits, rfl⟩ := List.exists_cons_of_ne_nil hfraction
  refine ⟨⟨false, whole, d :: digits, none, hwhole, hzero⟩, ?_⟩
  simp [NumberText.unsignedText, NumberText.fractionText, NumberText.exponentText]

/-- Digits that begin with no zero still do so when more digits follow, or when only some are kept. -/
theorem no_leading_zero_kept {digits others : List (Fin 10)} (hne : digits ≠ [])
    (hzero : ∀ more, digits ≠ 0 :: more) (h : digits <+: others ∨ others <+: digits) :
    ∀ more, others = 0 :: more → more = [] := by
  rintro more rfl
  obtain ⟨d, digits, rfl⟩ := List.exists_cons_of_ne_nil hne
  rcases h with h | h <;>
    · obtain ⟨rfl, -⟩ := List.cons_prefix_cons.mp h
      exact absurd rfl (hzero digits)

theorem isUnsigned_writePlain {digits : List (Fin 10)} (hne : digits ≠ [])
    (hzero : ∀ more, digits ≠ 0 :: more) (exponent : Int) :
    IsUnsigned (Decimal.writePlain (digitsText digits) exponent) := by
  have hlength : (digitsText digits).length = digits.length := List.length_map _
  have hkept : ∀ others, digits <+: others ∨ others <+: digits →
      ∀ more, others = 0 :: more → more = [] :=
    fun others => no_leading_zero_kept hne hzero
  rw [Decimal.writePlain, hlength]
  split
  · -- all digits, and zeros behind them, stand before the point
    have htext : IsUnsigned (digitsText (digits ++ List.replicate exponent.toNat 0) ++
        '.' :: digitsText [0]) :=
      isUnsigned_point (by simp [hne]) (hkept _ (.inl (List.prefix_append _ _))) (by simp)
    rw [digitsText_append, digitsText_replicate, List.append_assoc] at htext
    rw [List.append_assoc]
    exact htext
  · rename_i hexponent
    split
    · rename_i hpoint
      -- the point stands between the digits
      have htext : IsUnsigned (digitsText (digits.take (digits.length + exponent).toNat) ++
          '.' :: digitsText (digits.drop (digits.length + exponent).toNat)) := by
        refine isUnsigned_point ?_ (hkept _ (.inr (List.take_prefix _ _))) ?_
        · simp only [ne_eq, List.take_eq_nil_iff, hne, or_false]
          omega
        · simp only [ne_eq, List.drop_eq_nil_iff]
          omega
      simpa [digitsText, List.map_take, List.map_drop] using htext
    · -- all digits, and zeros before them, stand behind the point
      have htext : IsUnsigned (digitsText [0] ++ '.' :: digitsText
          (List.replicate (-(digits.length + exponent)).toNat 0 ++ digits)) :=
        isUnsigned_point (by simp) (by simp [eq_comm]) (by simp [hne])
      rw [digitsText_append, digitsText_replicate] at htext
      exact htext

theorem isUnsigned_writeScientific {digits : List (Fin 10)} (hne : digits ≠ []) (leading : Int) :
    IsUnsigned (Decimal.writeScientific (digitsText digits) leading) := by
  obtain ⟨power, hpower, hlead, hpowerValue⟩ := exists_decimal leading.natAbs
  have htext := digitsText_eq_toDigits hpower fun more h => (hlead more h).2
  rw [hpowerValue] at htext
  obtain ⟨d, digits, rfl⟩ := List.exists_cons_of_ne_nil hne
  have hzero : ∀ more : List (Fin 10), [d] = 0 :: more → more = [] := by
    simp [eq_comm]
  refine ⟨⟨false, [d], digits, some ⟨false, some (decide (leading < 0)), power, hpower⟩, by simp,
    hzero⟩, ?_⟩
  have hsign : Exponent.text ⟨false, some (decide (leading < 0)), power, hpower⟩ =
      'e' :: (if leading < 0 then '-' else '+') :: Decimal.digitChars leading.natAbs := by
    by_cases hneg : leading < 0 <;> simp [Exponent.text, hneg, htext, Decimal.digitChars]
  rw [NumberText.unsignedText, NumberText.exponentText, hsign]
  cases digits <;> simp [digitsText, NumberText.fractionText, Decimal.writeScientific]

theorem isUnsigned_write (style : Decimal.Style) {d : Decimal} (hd : d.digits ≠ 0) :
    IsUnsigned (Decimal.write style d) := by
  obtain ⟨digits, hne, htext, hzero⟩ := exists_digitChars hd
  rw [Decimal.write, ← htext]
  split
  · exact isUnsigned_writePlain hne hzero _
  · exact isUnsigned_writeScientific hne _

/-- A finite double is written as a number. -/
theorem exists_text_eq_writeDouble? {style : Decimal.Style} {x : Float} {text : List Char}
    (h : Decimal.writeDouble? style x = some text) : ∃ n : NumberText, n.text = text := by
  have hzero : IsUnsigned (digitsText [0] ++ '.' :: digitsText [0]) :=
    isUnsigned_point (by simp) (by simp [eq_comm]) (by simp)
  have hunsigned : IsUnsigned
      (if (Decimal.Binary.ofBits x.toBits).mantissa = 0 then ['0', '.', '0']
        else Decimal.write style (Decimal.shortest (Decimal.Binary.ofBits x.toBits))) := by
    split
    · exact hzero
    · rename_i hmantissa
      exact isUnsigned_write style (Decimal.digits_shortest hmantissa)
  obtain ⟨hplain, hnegative⟩ := exists_text_of_isUnsigned hunsigned
  rw [Decimal.writeDouble?] at h
  split at h
  · simp at h
  · obtain rfl := Option.some.inj h
    split
    · exact hplain
    · exact hnegative

/-- A number is written as a number, or as `null` if it is a double that is not finite. -/
theorem exists_text_eq_numberText (n : Number) :
    (∃ w : NumberText, w.text = numberText n) ∨ numberText n = Tree.null.text := by
  cases n with
  | integer z =>
    obtain ⟨w, hw⟩ := NumberText.exists_denotes z
    exact .inl ⟨w, hw.text_eq⟩
  | double x =>
    rw [numberText]
    cases htext : Decimal.writeDouble? doubleStyle x with
    | none => exact .inr rfl
    | some text => exact .inl (exists_text_eq_writeDouble? htext)

end Json

end DiagnosticDigest
