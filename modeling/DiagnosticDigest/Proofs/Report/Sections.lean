import DiagnosticDigest.Proofs.Digest.History
import DiagnosticDigest.Proofs.Report.Lines

/-!
# Reading a report back

Nothing is escaped in a report, and its headers are lines like any other. Yet both sections of a
digest can be read off its report, as long as no line of the digest has a line feed in it: the lines
of the errors name their severity, so the first blank line of the report is the one behind them.

## Main definitions

* `Report.linesIn` — the lines of a text.
* `Report.sections` — the errors and the warnings that a report shows.
-/

namespace DiagnosticDigest.Report

/-- The lines of a text in which a line feed ends each of them. -/
def linesIn (report : String) : List String :=
  (report.toList.splitOn '\n').dropLast.map String.ofList

/-- The sections of a report: the errors stand between its first line and its first blank line, the
warnings behind the header that follows the blank line. -/
def sections (report : String) : List String × List String :=
  let body := (linesIn report).tail
  (body.takeWhile (· ≠ ""), (body.dropWhile (· ≠ "")).drop 2)

theorem linesIn_printed {lines : List String} (h : ∀ line ∈ lines, '\n' ∉ line.toList) :
    linesIn (printed lines) = lines := by
  rw [linesIn, splitOn_printed_eq_iff.mpr h, List.dropLast_concat, List.map_map]
  simp [Function.comp_def]

/-- The sections are read back if every line is on one line and no error is blank. The warnings may
be anything: they end where the report ends. -/
theorem sections_text {d : Digest}
    (hlines : ∀ severity, ∀ line ∈ d.linesOf severity, '\n' ∉ line.toList)
    (herrors : ∀ line ∈ d.errors, line ≠ "") :
    sections (text d) = (d.errors.lines, d.warnings.lines) := by
  have hbody : (linesIn (text d)).tail =
      d.errors.lines ++ "" :: warningsHeader :: d.warnings.lines := by
    rw [text, linesIn_printed (forall_mem_lines_iff.mpr hlines)]
    rfl
  have hbefore : ∀ line ∈ d.errors.lines, decide (line ≠ "") = true := fun line hline =>
    decide_eq_true (herrors line hline)
  rw [sections, hbody]
  rw [List.takeWhile_append_of_pos hbefore, List.dropWhile_append_of_pos hbefore]
  simp

/-- No error of a digest of entries is blank, since its line names the severity. -/
theorem ne_empty_of_mem_errors {entries : List Entry} {line : String}
    (h : line ∈ (Digest.ofEntries entries).errors) : line ≠ "" := by
  obtain ⟨rest, rfl⟩ := Digest.exists_eq_of_mem_ofEntries (Digest.mem_linesOf_error.mpr h)
  simp [Severity.label]

/-- Whatever was done to two digests, if no line of either has a line feed in it, their reports are
the same exactly if they are, since both sections of each can be read off its report. -/
theorem report_tells_digests_apart (ops others : List Digest.Operation)
    (h : ∀ severity, ∀ line ∈ (Digest.after ops).linesOf severity, '\n' ∉ line.toList)
    (h' : ∀ severity, ∀ line ∈ (Digest.after others).linesOf severity, '\n' ∉ line.toList) :
    (text (Digest.after ops) = text (Digest.after others) ↔
        Digest.after ops = Digest.after others) ∧
      sections (text (Digest.after ops)) =
        ((Digest.after ops).errors.lines, (Digest.after ops).warnings.lines) := by
  simp only [Digest.after_eq_ofEntries] at h h' ⊢
  have hread := sections_text h fun _ => ne_empty_of_mem_errors
  have hread' := sections_text h' fun _ => ne_empty_of_mem_errors
  refine ⟨⟨?_, congrArg text⟩, hread⟩
  intro htext
  rw [htext, hread'] at hread
  obtain ⟨herrors, hwarnings⟩ := Prod.mk.inj hread
  exact (Digest.ext (LineSet.ext herrors) (LineSet.ext hwarnings)).symm

/-- Texts that are headers and separators, and texts that are empty: a report with an error and a
warning differs from the one with the same texts as two warnings. -/
theorem report_tells_digests_apart_headers :
    ∃ ops others : List Digest.Operation,
      (∀ severity, ∀ line ∈ (Digest.after ops).linesOf severity, '\n' ∉ line.toList) ∧
      (∀ severity, ∀ line ∈ (Digest.after others).linesOf severity, '\n' ∉ line.toList) ∧
      text (Digest.after ops) ≠ text (Digest.after others) ∧
      sections (text (Digest.after ops)) =
        (["error|:|=== WARNINGS ==="], ["warning|=== ERRORS ===:||"]) := by
  have hops : ∀ severity, ∀ line ∈ (Digest.after [.insert ⟨.error, "", "", "=== WARNINGS ==="⟩,
      .insert ⟨.warning, "=== ERRORS ===", "|", ""⟩]).linesOf severity, '\n' ∉ line.toList := by
    rw [Digest.after_eq_ofEntries]
    exact forall_mem_linesOf_ofEntries_iff.mpr (by decide)
  have hothers : ∀ severity, ∀ line ∈ (Digest.after [.renew,
      .ofEntries [⟨.warning, "", "", "=== WARNINGS ==="⟩,
        ⟨.warning, "=== ERRORS ===", "|", ""⟩]]).linesOf severity, '\n' ∉ line.toList := by
    rw [Digest.after_eq_ofEntries]
    exact forall_mem_linesOf_ofEntries_iff.mpr (by decide)
  obtain ⟨hiff, hsections⟩ := report_tells_digests_apart _ _ hops hothers
  refine ⟨_, _, hops, hothers, fun htext => absurd (hiff.mp htext) (by decide +kernel), ?_⟩
  rw [hsections]
  decide +kernel

/-- Lines that are put straight into the sections need not name a severity, and then two digests can
have one report. -/
example :
    let headers := ((∅ : LineSet).insert "").insert warningsHeader
    (⟨headers, ∅⟩ : Digest) ≠ ⟨∅, headers⟩ ∧ text ⟨headers, ∅⟩ = text ⟨∅, headers⟩ := by
  decide +kernel

end DiagnosticDigest.Report
