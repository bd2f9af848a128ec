import DiagnosticDigest.Proofs.Records

/-!
# Texts of fields

A field of a record goes into a line as a text: a string as itself, any other value in its compact
form, and where there is no value, or `null`, a default. Values that their compact text gives back
are told apart by it, so two of them that are no strings show alike only where the default of a
missing field looks like a value.

## Main definitions

* `Entry.fields` — the fields that go into a line, with their defaults.
-/

namespace DiagnosticDigest

open Json

/-! ## Compact texts -/

namespace Json

/-- Different values have different compact texts. -/
theorem eq_of_compact_eq {v w : Json} (hv : Plain maxDepth v) (hw : Plain maxDepth w)
    (h : compact v = compact w) : v = w := by
  have hread := parse_compact hv
  rw [h, parse_compact hw] at hread
  exact (Except.ok.inj hread).symm

/-- A text that is no JSON is no compact text. -/
theorem compact_ne_of_parse {v : Json} (hv : Plain maxDepth v) {text : String} {fault : Fault}
    (h : parse text = .error fault) : compact v ≠ text := by
  intro heq
  have hread := parse_compact hv
  rw [heq, h] at hread
  simp at hread

theorem asText_of_text?_eq_none {v : Json} (h : v.text? = none) : v.asText = compact v := by
  cases v with
  | string text => simp [text?] at h
  | null | bool | number | array | object => rfl

end Json

namespace Entry

/-! ## Fields -/

/-- The fields that go into a line: file name and line of the span, and the message. Each stands with
the text that a line has where the field is missing. -/
def fields : List (String × String) :=
  [("file_name", "unknown"), ("line_start", "0"), ("message", "")]

variable {members others : List (String × Json)} {key default : String} {v w : Json}

theorem fieldText_null (h : Members.find? key members = some .null) :
    fieldText (.object members) key default = default := by
  simp [fieldText, field?, h]

theorem fieldText_compact (h : Members.find? key members = some v) (hnull : v ≠ .null)
    (hstring : v.text? = none) : fieldText (.object members) key default = compact v := by
  have hfield : (Json.object members).field? key = some v := by
    rw [field?, h]
    cases v <;> simp at hnull ⊢
  simp [fieldText, hfield, asText_of_text?_eq_none hstring]

/-- Of the defaults only that of a line is the compact text of a value, which is zero. -/
theorem compact_eq_default_iff (hv : Plain maxDepth v) (h : (key, default) ∈ fields) :
    compact v = default ↔ key = "line_start" ∧ v = .number (.integer 0) := by
  have hzero : Plain maxDepth (.number (.integer 0)) := .integer (by decide) (by decide)
  have hwritten : compact (.number (.integer 0)) = "0" := rfl
  simp only [fields, List.mem_cons, Prod.mk.injEq, List.not_mem_nil, or_false] at h
  rcases h with ⟨rfl, rfl⟩ | ⟨rfl, rfl⟩ | ⟨rfl, rfl⟩
  · have hfault : parse "unknown" = .error (.past .expectedValue "unknown".toList) := rfl
    simp [compact_ne_of_parse hv hfault]
  · constructor
    · intro heq
      exact ⟨rfl, eq_of_compact_eq hv hzero (heq.trans hwritten.symm)⟩
    · rintro ⟨-, rfl⟩
      exact hwritten
  · have hfault : parse "" = .error (.atEnd .endInValue) := rfl
    simp [compact_ne_of_parse hv hfault]

/-- A value that is nested at most 127 deep, and whose numbers are whole and fit 64 bits, is read back
from its compact text. So such texts tell values apart, and two of the values that are no strings
show alike in a field only as a line, and only where one is missing and the other one is zero. -/
theorem compact_tells_values_apart (v : Json) (hv : Plain 127 v) :
    readRecord (compact v) = .ok v ∧
    ∀ w, Plain 127 w → v ≠ w →
      compact v ≠ compact w ∧
      (v.text? = none → w.text? = none →
        ∀ members others key default, (key, default) ∈ fields →
          Members.find? key members = some v → Members.find? key others = some w →
          (fieldText (.object members) key default = fieldText (.object others) key default ↔
            key = "line_start" ∧
              (v = .null ∧ w = .number (.integer 0) ∨ v = .number (.integer 0) ∧ w = .null))) := by
  refine ⟨readRecord_eq_ok_iff.mpr (parse_compact hv), ?_⟩
  intro w hw hne
  have hcompact : compact v ≠ compact w := fun heq => hne (eq_of_compact_eq hv hw heq)
  refine ⟨hcompact, ?_⟩
  intro hvtext hwtext members others key default hfield hfindv hfindw
  by_cases hvnull : v = .null
  · subst hvnull
    rw [fieldText_null hfindv, fieldText_compact hfindw (Ne.symm hne) hwtext, eq_comm,
      compact_eq_default_iff hw hfield]
    simp
  · rw [fieldText_compact hfindv hvnull hvtext]
    by_cases hwnull : w = .null
    · subst hwnull
      rw [fieldText_null hfindw, compact_eq_default_iff hv hfield]
      simp
    · rw [fieldText_compact hfindw hwnull hwtext]
      simp [hcompact, hvnull, hwnull]

/-- Two objects that differ in the sign of a number under an escaped key. -/
theorem compact_tells_values_apart_sign :
    Plain 127 (.object [("\n", .array [.number (.integer (-1)), .null])]) ∧
    Plain 127 (.object [("\n", .array [.number (.integer 1), .null])]) ∧
    readRecord (compact (.object [("\n", .array [.number (.integer (-1)), .null])])) =
      .ok (.object [("\n", .array [.number (.integer (-1)), .null])]) ∧
    compact (.object [("\n", .array [.number (.integer (-1)), .null])]) ≠
      compact (.object [("\n", .array [.number (.integer 1), .null])]) := by
  have hplain : ∀ z : Int, -0x8000000000000000 ≤ z → z ≤ 0xFFFFFFFFFFFFFFFF →
      Plain 127 (.object [("\n", .array [.number (.integer z), .null])]) := by
    intro z hlow hhigh
    refine .object ?_ (List.pairwise_singleton _ _)
    simp only [List.forall_mem_singleton]
    refine .array ?_
    simp only [List.forall_mem_cons]
    exact ⟨.integer hlow hhigh, .null, by simp⟩
  have hnegative := hplain (-1) (by decide) (by decide)
  have hpositive := hplain 1 (by decide) (by decide)
  obtain ⟨hread, happart⟩ := compact_tells_values_apart _ hnegative
  exact ⟨hnegative, hpositive, hread, (happart _ hpositive (by simp)).1⟩

/-- Different values that are no strings but show alike: `null` counts as a missing line, and shows as
zero does. -/
theorem compact_tells_values_apart_missing_line :
    Plain 127 .null ∧ Plain 127 (.number (.integer 0)) ∧ Json.null ≠ .number (.integer 0) ∧
    Json.text? .null = none ∧ Json.text? (.number (.integer 0)) = none ∧
    fieldText (.object [("line_start", .null)]) "line_start" "0" =
      fieldText (.object [("line_start", .number (.integer 0))]) "line_start" "0" ∧
    ofLine ("\x7b\"reason\":\"compiler-message\"," ++
        "\"message\":\x7b\"level\":\"error\",\"message\":\"m\"," ++
        "\"spans\":[\x7b\"file_name\":\"a.rs\",\"line_start\":null\x7d]\x7d\x7d") =
      .ok ⟨.error, "a.rs", "0", "m"⟩ ∧
    ofLine ("\x7b\"reason\":\"compiler-message\"," ++
        "\"message\":\x7b\"level\":\"error\",\"message\":\"m\"," ++
        "\"spans\":[\x7b\"file_name\":\"a.rs\",\"line_start\":0\x7d]\x7d\x7d") =
      .ok ⟨.error, "a.rs", "0", "m"⟩ := by
  refine ⟨.null, .integer (by decide) (by decide), by simp, rfl, rfl, rfl, ?_, ?_⟩
  · decide +kernel
  · decide +kernel

end Entry

end DiagnosticDigest
