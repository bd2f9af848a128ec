import DiagnosticDigest.CommandLine.Parse
import Mathlib.Data.List.TakeWhile

/-!
# What a single argument says

In front of `--` an argument asks for the version, names an input, or says nothing that the program
understands. Which form an argument has can be seen from how it is written.

## Main definitions

* `CommandLine.AsksVersion` — the two ways to ask for the version.
* `CommandLine.NamesInput` — the arguments that stand for inputs.
-/

namespace DiagnosticDigest.CommandLine

/-- Whether an argument asks for the version, by its letter or by its long name. -/
def AsksVersion (argument : String) : Prop :=
  argument = "-v" ∨ argument = "--version"

/-- Whether an argument names an input: a lone dash does, and a text that begins with something else.
The empty text names none. -/
def NamesInput (argument : String) : Prop :=
  argument = "-" ∨ argument ≠ "" ∧ argument.toList.head? ≠ some '-'

instance : DecidablePred AsksVersion :=
  fun _ => inferInstanceAs (Decidable (_ ∨ _))

instance : DecidablePred NamesInput :=
  fun _ => inferInstanceAs (Decidable (_ ∨ _ ∧ _))

theorem AsksVersion.not_namesInput {argument : String} (h : AsksVersion argument) :
    ¬ NamesInput argument := by
  rcases h with rfl | rfl <;> decide

theorem NamesInput.not_asksVersion {argument : String} (h : NamesInput argument) :
    ¬ AsksVersion argument :=
  fun hasks => hasks.not_namesInput h

theorem AsksVersion.ne_separator {argument : String} (h : AsksVersion argument) :
    argument ≠ "--" := by
  rcases h with rfl | rfl <;> decide

theorem NamesInput.ne_separator {argument : String} (h : NamesInput argument) :
    argument ≠ "--" := by
  rintro rfl
  revert h
  decide

theorem NamesInput.ne_empty {argument : String} (h : NamesInput argument) : argument ≠ "" := by
  rintro rfl
  revert h
  decide

/-! ## Forms -/

namespace Argument

theorem eq_of_ofChars_eq_separator {chars : List Char} (h : ofChars chars = .separator) :
    chars = ['-', '-'] := by
  revert h
  fun_cases ofChars chars <;> simp_all

/-- A long flag without a value is its name behind two dashes. -/
theorem eq_of_ofChars_eq_long {chars : List Char} {name : String}
    (h : ofChars chars = .long name none) : chars = '-' :: '-' :: name.toList := by
  revert h
  fun_cases ofChars chars with
  | case2 text hempty front hvalue =>
    intro h
    obtain rfl : front = name := by simpa using h
    -- nothing stops the name, so it is the whole text
    have hfront : text.takeWhile (· ≠ '=') = text :=
      List.takeWhile_eq_self_iff.mpr (List.dropWhile_eq_nil_iff.mp hvalue)
    rw [String.toList_ofList, hfront]
  | case1 | case3 | case4 | case5 => simp

/-- A cluster of letters is what stands behind a single dash. -/
theorem eq_of_ofChars_eq_letters {chars letters : List Char}
    (h : ofChars chars = .letters letters) : chars = '-' :: letters ∧ letters ≠ [] := by
  revert h
  fun_cases ofChars chars with
  | case4 letter rest =>
    rintro ⟨⟩
    exact ⟨rfl, List.cons_ne_nil _ _⟩
  | case1 | case2 | case3 | case5 => simp

theorem ofChars_eq_input_iff {chars : List Char} :
    ofChars chars = .input ↔ chars = ['-'] ∨ chars.head? ≠ some '-' := by
  fun_cases ofChars chars with
  | case1 | case2 | case3 | case4 => simp
  | case5 chars _ _ hletters =>
    rcases chars with - | ⟨first, - | ⟨second, rest⟩⟩
    · simp
    · simp [Decidable.em]
    · have hfirst : first ≠ '-' := by
        rintro rfl
        exact hletters second rest rfl
      simpa using hfirst

/-- Arguments that are kept as inputs name one, or are empty. -/
theorem ofChars_toList_eq_input_iff {argument : String} :
    ofChars argument.toList = .input ↔ argument = "" ∨ NamesInput argument := by
  rw [ofChars_eq_input_iff, NamesInput]
  have hdash : argument.toList = ['-'] ↔ argument = "-" := by
    rw [← String.toList_inj]
    rfl
  rw [hdash]
  by_cases hempty : argument = ""
  · simp [hempty]
  · simp [hempty]

end Argument

end DiagnosticDigest.CommandLine
