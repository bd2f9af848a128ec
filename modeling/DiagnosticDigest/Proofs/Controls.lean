import DiagnosticDigest.Proofs.Fields
import DiagnosticDigest.Proofs.Line
import DiagnosticDigest.Proofs.Report.Lines

/-!
# Control characters of a line

A field that is no string goes into a line in its compact form, where controls are escaped. So a
control in the line of an entry, a line feed among them, stands in a string of the record, and the lines
of a report are broken up by strings only.

## Main definitions

* `Json.HoldsText` — the member under a key is a string with some character.
* `Entry.Carries` — one of the strings that go into a line has some character.
-/

namespace DiagnosticDigest

open Json

theorem Visible.notMem {text : List Char} (h : Visible text) {c : Char} (hc : c.toNat < 0x20) :
    c ∉ text := by
  intro hmem
  have hle := h c hmem
  omega

/-- The member of a value under a key is a string, and a character stands in it. -/
def Json.HoldsText (v : Json) (key : String) (c : Char) : Prop :=
  ∃ text, v.field? key = some (.string text) ∧ c ∈ text.toList

namespace Entry

/-- File name or line of a span, or the text of a message, is a string, and a character stands in it. -/
def Carries (message : List (String × Json)) (span : Json) (c : Char) : Prop :=
  span.HoldsText "file_name" c ∨ span.HoldsText "line_start" c ∨
    (Json.object message).HoldsText "message" c

variable {c : Char}

/-- A control in the text of a field stands in a string: compact texts have none. -/
theorem mem_fieldText_iff {v : Json} {key default : String} (hdefault : Visible default.toList)
    (hc : c.toNat < 0x20) : c ∈ (fieldText v key default).toList ↔ v.HoldsText key c := by
  rw [fieldText, HoldsText]
  cases hfield : v.field? key with
  | none => simp [hdefault.notMem hc]
  | some held =>
    cases htext : held.text? with
    | none =>
      have hcompact : held.asText = compact held := asText_of_text?_eq_none htext
      have hnot : ∀ text, held ≠ .string text := by
        rintro text rfl
        simp [text?] at htext
      simp [hcompact, compact, (visible_compactChars held).notMem hc, hnot]
    | some text =>
      cases held with
      | string held => simp [asText]
      | null | bool | number | array | object => simp [text?] at htext

theorem visible_label (severity : Severity) : Visible severity.label.toList := by
  cases severity <;> decide

/-- Severity, separators and defaults have no controls, so those of a line stand in the strings of its
record. -/
theorem Qualifies.mem_line_iff {record : Json} {severity : Severity}
    {message : List (String × Json)} {span : Json} (h : Qualifies record severity message span)
    {e : Entry} (he : ofRecord record = .ok e) (hc : c.toNat < 0x20) :
    c ∈ e.line.toList ↔ Carries message span c := by
  obtain rfl := Except.ok.inj (h.ofRecord_eq.symm.trans he)
  have hlabel : c ∉ severity.label.toList := (visible_label severity).notMem hc
  have hseparators : c ∉ ['|', ':'] := Visible.notMem (by decide) hc
  simp only [List.mem_cons, List.not_mem_nil, or_false, not_or] at hseparators
  simp only [toList_line, List.mem_append, List.mem_cons, hlabel, hseparators, false_or, Carries,
    mem_fieldText_iff (by decide : Visible "unknown".toList) hc,
    mem_fieldText_iff (by decide : Visible "0".toList) hc,
    mem_fieldText_iff (by decide : Visible "".toList) hc, or_assoc]

theorem ofText_eq_ok_iff {text : String} {e : Entry} :
    ofText text = .ok e ↔ ∃ record, readRecord text = .ok record ∧ ofRecord record = .ok e := by
  rw [ofText]
  cases readRecord text <;> simp

/-- A blank line has no record, so it makes no difference that it is not decoded. -/
theorem ofLine_eq_ok_iff {line : String} {e : Entry} :
    ofLine line = .ok e ↔ ofText (Text.trim line) = .ok e := by
  rw [ofLine]
  by_cases hblank : Text.trim line = ""
  · have hfault : ofText "" = .error (.malformed (.atEnd .endInValue) "") := rfl
    simp [hblank, hfault]
  · simp [hblank]

/-- An entry of a record is on one line unless one of the strings that it is taken from has a line
feed. -/
theorem onOneLine_iff {record : Json} {e : Entry} (he : ofRecord record = .ok e) :
    e.OnOneLine ↔ ∀ severity message span, Qualifies record severity message span →
      ¬ Carries message span '\n' := by
  have hfeed : '\n'.toNat < 0x20 := by
    decide
  constructor
  · intro h severity message span hqualifies
    rw [← hqualifies.mem_line_iff he hfeed]
    exact notMem_line_iff.mpr h
  · intro h
    obtain ⟨message, span, hqualifies⟩ := exists_qualifies he
    rw [← notMem_line_iff, hqualifies.mem_line_iff he hfeed]
    exact h _ message span hqualifies

end Entry

/-- A report has the three lines more than its digest that the headers and the blank line take exactly
if every entry is on one line. -/
theorem Report.count_lineFeed_ofEntries_iff {entries : List Entry} :
    (text (Digest.ofEntries entries)).toList.count '\n' = (Digest.ofEntries entries).size + 3 ↔
      ∀ e ∈ entries, e.OnOneLine := by
  rw [← forall_mem_linesOf_ofEntries_iff, ← forall_mem_lines_iff, ← count_printed_eq_length_iff,
    length_lines]
  rfl

namespace Entry

/-- No compact text has a control. So a control in the line of an entry stands in a string that the
record has for file name, line or message; and the report on a stream has just the three lines more
than its digest that the headers and the blank line take, unless such a string of a record has a line
feed. -/
theorem controls_come_from_strings :
    (∀ v : Json, ∀ c ∈ (compact v).toList, 0x20 ≤ c.toNat) ∧
    (∀ text e, ofText text = .ok e →
      ∃ record message span, readRecord text = .ok record ∧
        Qualifies record e.severity message span ∧
        ∀ c, c.toNat < 0x20 → (c ∈ e.line.toList ↔ Carries message span c)) ∧
    ∀ source : Source, source.Unfailing → ∃ d, Digest.ofSource source = .ok d ∧
      ((Report.text d).toList.count '\n' = d.size + 3 ↔
        ∀ line record severity message span, Utf8.encode line ∈ Intake.linesOf source.bytes →
          readRecord (Text.trim line) = .ok record → Qualifies record severity message span →
          ¬ Carries message span '\n') := by
  refine ⟨?_, ?_, ?_⟩
  · intro v c hc
    rw [compact, String.toList_ofList] at hc
    exact visible_compactChars v c hc
  · intro text e h
    obtain ⟨record, hread, hrecord⟩ := ofText_eq_ok_iff.mp h
    obtain ⟨message, span, hqualifies⟩ := exists_qualifies hrecord
    exact ⟨record, message, span, hread, hqualifies, fun c => hqualifies.mem_line_iff hrecord⟩
  · intro source hsource
    refine ⟨_, Digest.ofSource_unfailing hsource, ?_⟩
    rw [Report.count_lineFeed_ofEntries_iff]
    simp only [Intake.mem_entriesOf, ofLine_eq_ok_iff, ofText_eq_ok_iff]
    constructor
    · intro h line record severity message span hline hread hqualifies
      have he := hqualifies.ofRecord_eq
      exact (onOneLine_iff he).mp (h _ ⟨line, hline, record, hread, he⟩) severity message span
        hqualifies
    · rintro h e ⟨line, hline, record, hread, he⟩
      refine (onOneLine_iff he).mpr ?_
      intro severity message span hqualifies
      exact h line record severity message span hline hread hqualifies

/-- A message with a line feed, which its record spells with an escape, breaks the report up. The file
name is a list with such a string, which shows it escaped, and does not. -/
theorem controls_come_from_strings_list :
    ∃ text e message span d,
      ofText text = .ok e ∧ e.line = "error|[\"a\\n\"]:0|m\nb" ∧
      Carries message span '\n' ∧ ¬ Carries message span '\t' ∧
      (Source.whole (Utf8.encode text)).Unfailing ∧
      Digest.ofSource (Source.whole (Utf8.encode text)) = .ok d ∧
      (Report.text d).toList.count '\n' ≠ d.size + 3 := by
  let text := "\x7b\"reason\":\"compiler-message\",\"message\":\x7b\"level\":\"error\"," ++
    "\"message\":\"m\\nb\",\"spans\":[\x7b\"file_name\":[\"a\\n\"]\x7d]\x7d\x7d"
  have htext : ofText text = .ok ⟨.error, "[\"a\\n\"]", "0", "m\nb"⟩ := by
    decide +kernel
  have htrim : Text.trim text = text := by
    decide +kernel
  have hline : Utf8.encode text ∈ Intake.linesOf (Utf8.encode text) := by
    decide +kernel
  obtain ⟨-, hlines, hreports⟩ := controls_come_from_strings
  obtain ⟨record, message, span, hread, hqualifies, hcontrols⟩ := hlines text _ htext
  have hfeed : Carries message span '\n' := (hcontrols '\n' (by decide)).mp (by decide)
  obtain ⟨d, hd, hcount⟩ := hreports _ (Source.unfailing_whole (Utf8.encode text))
  rw [Source.bytes_whole] at hcount
  refine ⟨text, _, message, span, d, htext, rfl, hfeed, ?_, Source.unfailing_whole _, hd, ?_⟩
  · rw [← hcontrols '\t' (by decide)]
    decide
  · intro heq
    rw [← htrim] at hread
    exact hcount.mp heq text record _ message span hline hread hqualifies hfeed

end Entry

end DiagnosticDigest
