import DiagnosticDigest.Json.Compact

/-!
# The characters of compact text

Compact text stands on one line: whatever a value holds, no character of its text is a control.

## Main definitions

* `Visible` — texts without control characters.
-/

namespace DiagnosticDigest

/-- Texts without control characters, line feeds among them. -/
def Visible (text : List Char) : Prop :=
  ∀ c ∈ text, 0x20 ≤ c.toNat

instance (text : List Char) : Decidable (Visible text) :=
  List.decidableBAll (fun c => 0x20 ≤ Char.toNat c) text

namespace Visible

theorem nil : Visible [] := by
  intro c hc
  simp at hc

theorem cons {c : Char} {text : List Char} (hc : 0x20 ≤ c.toNat) (h : Visible text) :
    Visible (c :: text) :=
  List.forall_mem_cons.mpr ⟨hc, h⟩

theorem append {a b : List Char} (ha : Visible a) (hb : Visible b) : Visible (a ++ b) :=
  List.forall_mem_append.mpr ⟨ha, hb⟩

theorem sublist {a b : List Char} (h : a.Sublist b) (hb : Visible b) : Visible a :=
  fun c hc => hb c (h.subset hc)

end Visible

/-! ## Decimals -/

namespace Decimal

theorem visible_digitChars (n : Nat) : Visible (digitChars n) := by
  intro c hc
  have hdigit := Nat.isDigit_of_mem_toDigits (by decide) (by decide) hc
  have hbounds : 0x30 ≤ c.toNat ∧ c.toNat ≤ 0x39 := by
    simpa [Char.isDigit, UInt32.le_iff_toNat_le] using hdigit
  omega

theorem visible_writeInteger (z : Int) : Visible (writeInteger z) := by
  rw [writeInteger]
  split
  · exact .cons (by decide) (visible_digitChars _)
  · exact visible_digitChars _

theorem visible_zeros (n : Nat) : Visible (zeros n) := by
  intro c hc
  obtain ⟨-, rfl⟩ := List.mem_replicate.mp hc
  decide

theorem visible_writePlain {digits : List Char} (h : Visible digits) (exponent : Int) :
    Visible (writePlain digits exponent) := by
  rw [writePlain]
  split
  · exact (h.append (visible_zeros _)).append (by decide)
  · split
    · exact (h.sublist (List.take_sublist _ _)).append
        (Visible.cons (by decide) (h.sublist (List.drop_sublist _ _)))
    · exact (Visible.cons (by decide) (Visible.cons (by decide) (visible_zeros _))).append h

theorem visible_writeScientific {digits : List Char} (h : Visible digits) (leading : Int) :
    Visible (writeScientific digits leading) := by
  have hexponent : Visible ('e' :: (if leading < 0 then '-' else '+') ::
      digitChars leading.natAbs) := by
    refine Visible.cons (by decide) (Visible.cons ?_ (visible_digitChars _))
    split <;> decide
  match digits with
  | [] => exact hexponent
  | [first] => exact h.append hexponent
  | first :: second :: more =>
    obtain ⟨hfirst, hrest⟩ := List.forall_mem_cons.mp h
    exact (Visible.cons hfirst (Visible.cons (by decide) hrest)).append hexponent

theorem visible_write (style : Style) (d : Decimal) : Visible (write style d) := by
  rw [write]
  split
  · exact visible_writePlain (visible_digitChars _) _
  · exact visible_writeScientific (visible_digitChars _) _

theorem visible_writeDouble? (style : Style) (x : Float) :
    ∀ text ∈ writeDouble? style x, Visible text := by
  intro text htext
  rw [writeDouble?] at htext
  split at htext
  · simp at htext
  · simp only [Option.mem_some_iff] at htext
    subst htext
    have hmagnitude : Visible (if (Binary.ofBits x.toBits).mantissa = 0 then ['0', '.', '0']
        else write style (shortest (Binary.ofBits x.toBits))) := by
      split
      · decide
      · exact visible_write _ _
    split
    · exact hmagnitude
    · exact Visible.cons (by decide) hmagnitude

end Decimal

/-! ## Values -/

namespace Json

theorem visible_numberText (n : Number) : Visible (numberText n) := by
  cases n with
  | integer z => exact Decimal.visible_writeInteger z
  | double x =>
    rw [numberText]
    cases hx : Decimal.writeDouble? doubleStyle x with
    | none => decide
    | some text => exact Decimal.visible_writeDouble? _ _ text hx

theorem le_toNat_hexChar (n : Fin 16) : 0x20 ≤ (hexChar n.val).toNat := by
  revert n
  decide

theorem visible_escaped (c : Char) : Visible (escaped c) := by
  rw [escaped]
  split
  · decide
  split
  · decide
  split
  · decide
  split
  · decide
  split
  · decide
  split
  · decide
  split
  · decide
  split
  · rename_i hc
    have hhigh := le_toNat_hexChar ⟨c.toNat / 0x10, by omega⟩
    have hlow := le_toNat_hexChar ⟨c.toNat % 0x10, by omega⟩
    have hprefix : Visible ['\\', 'u', '0', '0'] := by
      decide
    exact hprefix.append (Visible.cons hhigh (Visible.cons hlow .nil))
  · rename_i hc
    exact Visible.cons (by omega) .nil

theorem visible_quotedText (text : String) : Visible (quotedText text) := by
  refine Visible.cons (by decide) (Visible.append ?_ (by decide))
  intro c hc
  obtain ⟨d, -, hd⟩ := List.mem_flatMap.mp hc
  exact visible_escaped d c hd

mutual

/-- No character of a compact text is a control. -/
theorem visible_compactChars : ∀ v : Json, Visible (compactChars v)
  | .null => by rw [compactChars]; decide
  | .bool true => by rw [compactChars]; decide
  | .bool false => by rw [compactChars]; decide
  | .number n => by rw [compactChars]; exact visible_numberText n
  | .string text => by rw [compactChars]; exact visible_quotedText text
  | .array [] => by rw [compactChars]; decide
  | .array (first :: more) => by
    rw [compactChars]
    exact (Visible.cons (by decide) (visible_compactChars first)).append (visible_compactItems more)
  | .object [] => by rw [compactChars]; decide
  | .object ((key, held) :: more) => by
    rw [compactChars]
    exact (Visible.cons (by decide) ((visible_quotedText key).append
      (Visible.cons (by decide) (visible_compactChars held)))).append (visible_compactMembers more)

theorem visible_compactItems : ∀ vs : List Json, Visible (compactItems vs)
  | [] => by rw [compactItems]; decide
  | v :: vs => by
    rw [compactItems]
    exact (Visible.cons (by decide) (visible_compactChars v)).append (visible_compactItems vs)

theorem visible_compactMembers : ∀ pairs : List (String × Json), Visible (compactMembers pairs)
  | [] => by rw [compactMembers]; decide
  | (key, held) :: more => by
    rw [compactMembers]
    exact (Visible.cons (by decide) ((visible_quotedText key).append
      (Visible.cons (by decide) (visible_compactChars held)))).append (visible_compactMembers more)

end

end Json

end DiagnosticDigest
