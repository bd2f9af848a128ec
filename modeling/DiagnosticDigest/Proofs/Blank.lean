import DiagnosticDigest.Text.Blank
import Mathlib.Data.List.TakeWhile

/-!
# Blanks around a text do not show

Trimming takes away all blanks on either side of a text, whatever they are and however many. So texts
with one core between different blanks are the same once they are trimmed.

## Main definitions

* `Text.Blank` — texts of nothing but blanks.
* `Text.Padded`, `Text.SameCore` — a core between blanks, and two texts with the same core.
-/

namespace DiagnosticDigest.Text

/-- A text of nothing but blanks. -/
def Blank (text : String) : Prop :=
  ∀ c ∈ text.toList, isBlank c = true

-- by the characters of the text, not by all that there are
instance (text : String) : Decidable (Blank text) :=
  List.decidableBAll (isBlank · = true) text.toList

/-- A text is a core with blanks around it. -/
def Padded (core text : String) : Prop :=
  ∃ before after, Blank before ∧ Blank after ∧ text = before ++ core ++ after

/-- Two texts are one core with blanks around it, which may be different ones. -/
def SameCore (text other : String) : Prop :=
  ∃ core, Padded core text ∧ Padded core other

/-! ## Trimming -/

theorem trimChars_padded {before after : List Char} (hbefore : ∀ c ∈ before, isBlank c = true)
    (hafter : ∀ c ∈ after, isBlank c = true) (core : List Char) :
    trimChars (before ++ core ++ after) = trimChars core := by
  rw [trimChars, trimChars, List.append_assoc, List.dropWhile_append_of_pos hbefore,
    List.dropWhile_append]
  by_cases hcore : core.dropWhile isBlank = []
  · -- nothing is left of the core, and nothing of the blanks behind it
    have hnone : after.dropWhile isBlank = [] := List.dropWhile_eq_nil_iff.mpr hafter
    simp [hcore, hnone]
  · have hreverse : ∀ c ∈ after.reverse, isBlank c = true := by
      simpa using hafter
    rw [if_neg (by simpa using hcore), List.reverse_append,
      List.dropWhile_append_of_pos hreverse]

theorem trim_padded {core text : String} (h : Padded core text) : trim text = trim core := by
  obtain ⟨before, after, hbefore, hafter, rfl⟩ := h
  rw [trim, trim, String.toList_append, String.toList_append, trimChars_padded hbefore hafter]

/-- Nothing stands in a trimmed text that does not stand in the text. -/
theorem mem_of_mem_trim {text : String} {c : Char} (h : c ∈ (trim text).toList) :
    c ∈ text.toList := by
  rw [trim, String.toList_ofList, trimChars, List.mem_reverse] at h
  have hreverse := (List.dropWhile_sublist isBlank).subset h
  rw [List.mem_reverse] at hreverse
  exact (List.dropWhile_sublist isBlank).subset hreverse

theorem trim_eq_of_sameCore {text other : String} (h : SameCore text other) :
    trim text = trim other := by
  obtain ⟨core, htext, hother⟩ := h
  rw [trim_padded htext, trim_padded hother]

theorem trim_of_blank {text : String} (h : Blank text) : trim text = "" := by
  have hpadded : Padded "" text := ⟨text, "", h, by decide, by simp⟩
  rw [trim_padded hpadded]
  rfl

end DiagnosticDigest.Text
