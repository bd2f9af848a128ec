import DiagnosticDigest.Proofs.Digest.History
import DiagnosticDigest.Proofs.Utf8.Order
import DiagnosticDigest.Report

/-!
# The order of a report

A section of a report holds the lines of the entries of its severity, each once and in ascending order.
It makes no difference to it whether texts are compared by their bytes or by their code points.
-/

namespace DiagnosticDigest

/-- Sets of lines ascend by code points as they do by bytes. -/
theorem LineSet.ascending_by_codePoints (s : LineSet) :
    s.lines.Pairwise Utf8.BeforeByCodePoints :=
  s.ascending.imp Utf8.before_iff.mp

namespace Report

/-- The order by bytes and the order by code points are one order of texts. Whatever was done to a
digest, its report holds, between the headers and behind them, the lines of the errors and of the
warnings that it has taken in and no others, and either section ascends strictly in both orders. -/
theorem sections_ascend_in_both_orders :
    (∀ a b : String, Utf8.Before a b ↔ Utf8.BeforeByCodePoints a b) ∧
    ∀ ops : List Digest.Operation, ∃ errors warnings : List String,
      text (Digest.after ops) =
        printed ("=== ERRORS ===" :: errors ++ "" :: "=== WARNINGS ===" :: warnings) ∧
      (∀ line, line ∈ errors ↔
        ∃ e ∈ Digest.history ops, e.severity = .error ∧ e.line = line) ∧
      (∀ line, line ∈ warnings ↔
        ∃ e ∈ Digest.history ops, e.severity = .warning ∧ e.line = line) ∧
      (errors.Pairwise Utf8.Before ∧ errors.Pairwise Utf8.BeforeByCodePoints) ∧
      (warnings.Pairwise Utf8.Before ∧ warnings.Pairwise Utf8.BeforeByCodePoints) := by
  refine ⟨fun _ _ => Utf8.before_iff, fun ops => ?_⟩
  rw [Digest.after_eq_ofEntries]
  generalize Digest.history ops = entries
  -- what a section holds, for either severity
  have hlines : ∀ severity line, line ∈ ((Digest.ofEntries entries).linesOf severity).lines ↔
      ∃ e ∈ entries, e.severity = severity ∧ e.line = line := by
    intro severity line
    exact Digest.mem_linesOf_ofEntries
  refine ⟨(Digest.ofEntries entries).errors.lines, (Digest.ofEntries entries).warnings.lines, rfl,
    hlines .error, hlines .warning, ?_, ?_⟩
  · exact ⟨LineSet.ascending _, LineSet.ascending_by_codePoints _⟩
  · exact ⟨LineSet.ascending _, LineSet.ascending_by_codePoints _⟩

end Report

end DiagnosticDigest
