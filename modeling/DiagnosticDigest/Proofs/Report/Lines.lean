import DiagnosticDigest.Proofs.Digest
import DiagnosticDigest.Proofs.Records
import DiagnosticDigest.Report
import Mathlib.Data.List.Basic

/-!
# Lines of a report

A report has one line for each line of the digest only if none of these has a line feed in it. Entries
are not escaped, so a file name, a line number or a message with a line feed breaks its line up, and
what stands behind it can pass for another entry.

## Main definitions

* `Entry.OnOneLine` — entries whose texts have no line feed.
-/

namespace DiagnosticDigest

/-- No text of the entry has a line feed in it. -/
def Entry.OnOneLine (e : Entry) : Prop :=
  '\n' ∉ e.fileName.toList ∧ '\n' ∉ e.lineStart.toList ∧ '\n' ∉ e.message.toList

instance (e : Entry) : Decidable e.OnOneLine :=
  inferInstanceAs (Decidable (_ ∧ _ ∧ _))

/-- The line of an entry is on one line exactly if its texts are: labels and separators have no line
feed. -/
theorem Entry.notMem_line_iff {e : Entry} : '\n' ∉ e.line.toList ↔ e.OnOneLine := by
  have hlabel : '\n' ∉ e.severity.label.toList := by
    cases e.severity <;> decide
  simp [line, OnOneLine, hlabel]

namespace Report

open Digest (exists_eq_of_mem_ofEntries)

/-! ## Splitting at line feeds -/

theorem length_splitOn (x : Char) (cs : List Char) :
    (cs.splitOn x).length = cs.count x + 1 := by
  induction cs with
  | nil => rfl
  | cons c cs ih =>
    rw [List.splitOn_cons_eq_if_modifyHead]
    by_cases hc : c = x
    · simp [hc, ih]
    · simp [hc, ih]

theorem toList_printed_cons (line : String) (lines : List String) :
    (printed (line :: lines)).toList = line.toList ++ '\n' :: (printed lines).toList := by
  simp [printed]

/-- Printed lines fall into the parts of each of them. -/
theorem splitOn_printed (lines : List String) :
    (printed lines).toList.splitOn '\n' =
      lines.flatMap (fun line => line.toList.splitOn '\n') ++ [[]] := by
  induction lines with
  | nil => rfl
  | cons line lines ih =>
    rw [toList_printed_cons, List.splitOn_append_cons_self, ih, List.flatMap_cons,
      List.append_assoc]

/-- Printed lines have a line feed each, besides those in them. -/
theorem count_printed (lines : List String) :
    (printed lines).toList.count '\n' =
      lines.length + (lines.flatMap String.toList).count '\n' := by
  induction lines with
  | nil => rfl
  | cons line lines ih =>
    rw [toList_printed_cons, List.count_append, List.count_cons_self, ih, List.flatMap_cons,
      List.count_append, List.length_cons]
    omega

/-- There are as many line feeds as printed lines exactly if no line has one in it. -/
theorem count_printed_eq_length_iff {lines : List String} :
    (printed lines).toList.count '\n' = lines.length ↔ ∀ line ∈ lines, '\n' ∉ line.toList := by
  rw [count_printed, Nat.add_eq_left, List.count_eq_zero]
  simp

/-- Printed lines fall into just themselves exactly if no line has a line feed in it. -/
theorem splitOn_printed_eq_iff {lines : List String} :
    (printed lines).toList.splitOn '\n' = lines.map String.toList ++ [[]] ↔
      ∀ line ∈ lines, '\n' ∉ line.toList := by
  constructor
  · intro h
    have hlength := congrArg List.length h
    rw [length_splitOn, List.length_append, List.length_map, List.length_singleton] at hlength
    exact count_printed_eq_length_iff.mp (by omega)
  · intro h
    have hparts : ∀ line ∈ lines, line.toList.splitOn '\n' = [line.toList] := fun line hline =>
      List.splitOn_eq_singleton (h line hline)
    rw [splitOn_printed, List.flatMap_congr hparts, ← List.map_eq_flatMap]

/-! ## Reports -/

theorem length_lines (d : Digest) : (lines d).length = d.size + 3 := by
  simp only [lines, Digest.size, LineSet.size, List.length_cons, List.length_append]
  omega

/-- The headers and the blank line have no line feed, so the lines of the digest decide. -/
theorem forall_mem_lines_iff {d : Digest} :
    (∀ line ∈ lines d, '\n' ∉ line.toList) ↔
      ∀ severity, ∀ line ∈ d.linesOf severity, '\n' ∉ line.toList := by
  have herrors : '\n' ∉ errorsHeader.toList := by
    decide
  have hwarnings : '\n' ∉ warningsHeader.toList := by
    decide
  constructor
  · intro h severity line hline
    apply h
    cases severity with
    | error =>
      have hmem : line ∈ d.errors.lines := hline
      simp [lines, hmem]
    | warning =>
      have hmem : line ∈ d.warnings.lines := hline
      simp [lines, hmem]
  · intro h line hline
    simp only [lines, List.mem_cons, List.mem_append] at hline
    rcases hline with (rfl | hline) | rfl | rfl | hline
    · exact herrors
    · exact h .error line hline
    · simp
    · exact hwarnings
    · exact h .warning line hline

/-- Of the digest of some entries every line is on one line exactly if every entry is. -/
theorem forall_mem_linesOf_ofEntries_iff {entries : List Entry} :
    (∀ severity, ∀ line ∈ (Digest.ofEntries entries).linesOf severity, '\n' ∉ line.toList) ↔
      ∀ e ∈ entries, e.OnOneLine := by
  simp only [Digest.mem_linesOf_ofEntries]
  constructor
  · intro h e he
    exact Entry.notMem_line_iff.mp (h e.severity e.line ⟨e, he, rfl, rfl⟩)
  · rintro h severity line ⟨e, he, -, rfl⟩
    exact Entry.notMem_line_iff.mpr (h e he)

/-- The report on a stream has a line for each line of its digest, the errors between the two headers
and the warnings behind them, each beginning with the name of its severity, exactly if none of the
stream's entries has a line feed in its texts. Only then, too, there are three lines more than the
digest holds. -/
theorem report_of_source (source : Source) (h : source.Unfailing) :
    ∃ d, Digest.ofSource source = .ok d ∧
      (∀ line ∈ d.errors, ∃ rest, line = "error|" ++ rest) ∧
      (∀ line ∈ d.warnings, ∃ rest, line = "warning|" ++ rest) ∧
      ((text d).toList.splitOn '\n' =
          ("=== ERRORS ===" :: d.errors.lines ++ "" :: "=== WARNINGS ===" ::
            d.warnings.lines).map String.toList ++ [[]] ↔
        ∀ line e, Utf8.encode line ∈ Intake.linesOf source.bytes → Entry.ofLine line = .ok e →
          e.OnOneLine) ∧
      ((text d).toList.count '\n' = d.size + 3 ↔
        ∀ line e, Utf8.encode line ∈ Intake.linesOf source.bytes → Entry.ofLine line = .ok e →
          e.OnOneLine) := by
  have hentries : (∀ line ∈ lines (Digest.ofEntries (Intake.entriesOf source.bytes)),
      '\n' ∉ line.toList) ↔
      ∀ line e, Utf8.encode line ∈ Intake.linesOf source.bytes → Entry.ofLine line = .ok e →
        e.OnOneLine := by
    rw [forall_mem_lines_iff, forall_mem_linesOf_ofEntries_iff]
    simp only [Intake.mem_entriesOf]
    constructor
    · intro hall line e hline he
      exact hall e ⟨line, hline, he⟩
    · rintro hall e ⟨line, hline, he⟩
      exact hall line e hline he
  refine ⟨_, Digest.ofSource_unfailing h, ?_, ?_, ?_, ?_⟩
  · intro line hline
    have hof : line ∈ (Digest.ofEntries (Intake.entriesOf source.bytes)).linesOf .error := hline
    exact exists_eq_of_mem_ofEntries hof
  · intro line hline
    have hof : line ∈ (Digest.ofEntries (Intake.entriesOf source.bytes)).linesOf .warning := hline
    exact exists_eq_of_mem_ofEntries hof
  · rw [← hentries]
    exact splitOn_printed_eq_iff
  · rw [← hentries, ← length_lines]
    exact count_printed_eq_length_iff

/-- A record with clean texts: four lines, three more than the digest holds. -/
theorem report_of_clean_record :
    (Source.whole (Utf8.encode (Entry.recordLine ⟨.warning, "b.rs", "2", "w"⟩))).Unfailing ∧
      ∃ d, Digest.ofSource
          (Source.whole (Utf8.encode (Entry.recordLine ⟨.warning, "b.rs", "2", "w"⟩))) = .ok d ∧
        (text d).toList.count '\n' = d.size + 3 := by
  have hread := Source.unfailing_whole
    (Utf8.encode (Entry.recordLine ⟨.warning, "b.rs", "2", "w"⟩))
  have hentries := Entry.entriesOf_recordLine ⟨.warning, "b.rs", "2", "w"⟩
  obtain ⟨d, hd, -, -, -, hcount⟩ := report_of_source _ hread
  refine ⟨hread, d, hd, hcount.mpr ?_⟩
  intro line e hline he
  have hmem := Intake.mem_entriesOf.mpr ⟨line, hline, he⟩
  rw [Source.bytes_whole, hentries, List.mem_singleton] at hmem
  subst hmem
  decide

/-- A message with a line feed, which its record spells with an escape: the digest holds one line, and
the report has five, one of which names no severity. -/
theorem report_of_line_feed :
    ∃ d, Digest.ofSource (Source.whole (Utf8.encode
        ("\x7b\"message\":\x7b\"level\":\"error\",\"message\":\"m\\nb\",\"spans\":" ++
          "[\x7b\"file_name\":\"a.rs\",\"line_start\":\"1\"\x7d]\x7d," ++
          "\"reason\":\"compiler-message\"\x7d\n"))) = .ok d ∧
      d.size = 1 ∧
      (text d).toList.splitOn '\n' =
        ["=== ERRORS ===", "error|a.rs:1|m", "b", "", "=== WARNINGS ===", ""].map String.toList := by
  have hline : "\x7b\"message\":\x7b\"level\":\"error\",\"message\":\"m\\nb\",\"spans\":" ++
      "[\x7b\"file_name\":\"a.rs\",\"line_start\":\"1\"\x7d]\x7d," ++
      "\"reason\":\"compiler-message\"\x7d\n" =
      Entry.recordLine ⟨.error, "a.rs", "1", "m\nb"⟩ := by
    decide +kernel
  have hentries := Entry.entriesOf_recordLine ⟨.error, "a.rs", "1", "m\nb"⟩
  refine ⟨Digest.ofEntries [⟨.error, "a.rs", "1", "m\nb"⟩], ?_, rfl, by decide +kernel⟩
  rw [hline, Digest.ofSource_unfailing (Source.unfailing_whole _), Source.bytes_whole, hentries]

end Report

end DiagnosticDigest
