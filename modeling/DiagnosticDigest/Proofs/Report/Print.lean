import DiagnosticDigest.Proofs.Stream.Sink
import DiagnosticDigest.Proofs.Utf8
import DiagnosticDigest.Report.Print

/-!
# What arrives of a report

A report is written line by line, but a failure can fall on any byte of it. What has arrived then is
a beginning of the report, as long as the sink had room; how the sink took it leaves no trace.

## Main definitions

* `Report.bytes` — the bytes of a report.
-/

namespace DiagnosticDigest.Report

/-- The bytes of the report on a digest. -/
def bytes (d : Digest) : List UInt8 :=
  Utf8.encode (text d)

/-! ## Lines -/

/-- The pieces that lines are written in make up the printed lines. -/
theorem flatten_pieces (lines : List String) :
    (pieces lines).flatten = Utf8.encode (printed lines) := by
  induction lines with
  | nil => rfl
  | cons line lines ih =>
    rw [pieces, List.flatMap_cons, List.flatten_append, printed, Utf8.encode_append,
      Utf8.encode_append, ← ih]
    simp [pieces]

/-- Writing lines leaves what one write of all their bytes leaves. -/
theorem printLines_settled (s : Sink) (lines : List String) :
    (printLines s lines).1.settled = (s.takeFitting (Utf8.encode (printed lines))).settled ∧
      (printLines s lines).2 = s.refusal? (Utf8.encode (printed lines)).length := by
  rw [← flatten_pieces]
  exact s.writeEach_settled (pieces lines)

/-! ## The report -/

/-- Printing takes the bytes of the report that there is room for. It fails by the sink's refusal if
some are left over, and else as flushing does. -/
theorem print_settled (d : Digest) (s : Sink) :
    (print d s).1.settled = (s.takeFitting (bytes d)).settled ∧
      (print d s).2 = if s.HasRoom (bytes d).length then s.flush else some s.refusalFailure := by
  obtain ⟨hsink, hfailure⟩ := printLines_settled s (lines d)
  rw [print]
  rcases hlines : printLines s (lines d) with ⟨next, failure⟩
  rw [hlines] at hsink hfailure
  change next.settled = (s.takeFitting (bytes d)).settled at hsink
  change failure = s.refusal? (bytes d).length at hfailure
  by_cases hroom : s.HasRoom (bytes d).length
  · rw [Sink.refusal?, if_pos hroom] at hfailure
    subst hfailure
    have hflush : next.flush = s.flush := by
      rw [← Sink.flush_settled, hsink]
      rfl
    exact ⟨hsink, by rw [if_pos hroom]; exact hflush⟩
  · rw [Sink.refusal?, if_neg hroom] at hfailure
    subst hfailure
    exact ⟨hsink, by rw [if_neg hroom]⟩

theorem arrived_print (d : Digest) (s : Sink) :
    (print d s).1.arrived =
      s.arrived ++ (bytes d).take (s.fitting (bytes d).length) := by
  have hsink := congrArg Sink.arrived (print_settled d s).1
  exact hsink

theorem sink_deliver (d : Digest) (s : Sink) : (deliver d s).sink = (print d s).1 := by
  rw [deliver]
  obtain ⟨next, failure⟩ := print d s
  cases failure with
  | none => rfl
  | some reason =>
    by_cases hkind : reason.kind = .brokenPipe
    · simp [hkind]
    · simp [hkind]

/-- The trouble with a report is what printing failed by, unless the reader has gone away. -/
theorem trouble_deliver_eq_some_iff {d : Digest} {s : Sink} {t : Trouble} :
    (deliver d s).trouble = some t ↔
      ∃ reason, (print d s).2 = some reason ∧ reason.kind ≠ .brokenPipe ∧ .writing reason = t := by
  rw [deliver]
  obtain ⟨next, failure⟩ := print d s
  cases failure with
  | none => simp
  | some reason =>
    by_cases hkind : reason.kind = .brokenPipe
    · simp [hkind]
    · simp [hkind]

theorem trouble_deliver_eq_none_iff {d : Digest} {s : Sink} :
    (deliver d s).trouble = none ↔
      ∀ reason, (print d s).2 = some reason → reason.kind = .brokenPipe := by
  constructor
  · intro hnone reason hreason
    by_contra hkind
    have hsome := trouble_deliver_eq_some_iff.mpr ⟨reason, hreason, hkind, rfl⟩
    rw [hnone] at hsome
    simp at hsome
  · intro hquiet
    refine Option.eq_none_iff_forall_ne_some.mpr ?_
    intro t ht
    obtain ⟨reason, hreason, hkind, -⟩ := trouble_deliver_eq_some_iff.mp ht
    exact hkind (hquiet reason hreason)

/-- Of a report those bytes arrive that a sink has room for, from the front, in whatever pieces and
with whatever interruptions it takes them. Printing succeeds exactly if that is the whole report and
flushing does not fail; a report that does not fit fails by the sink's refusal, one that fits by the
failure of flushing. Delivering it succeeds then too, and if the reader has gone away; every other
failure is a trouble. -/
theorem print_and_deliver (d : Digest) (s : Sink) :
    (print d s).1.arrived = s.arrived ++ (bytes d).take (s.fitting (bytes d).length) ∧
    ((print d s).2 = none ↔ s.HasRoom (bytes d).length ∧ s.flushFailure = none) ∧
    (¬ s.HasRoom (bytes d).length → (print d s).2 = some (s.refusal.getD .tookNothing)) ∧
    (s.HasRoom (bytes d).length → (print d s).2 = s.flushFailure) ∧
    (deliver d s).sink.arrived = (print d s).1.arrived ∧
    ((deliver d s).trouble = none ↔
      ∀ reason, (print d s).2 = some reason → reason.kind = .brokenPipe) ∧
    ∀ reason, (print d s).2 = some reason → reason.kind ≠ .brokenPipe →
      ∃ t, (deliver d s).trouble = some t ∧ t.headline = "Failed to write report" ∧
        t.cause = reason := by
  have hfailure := (print_settled d s).2
  refine ⟨arrived_print d s, ?_, ?_, ?_, by rw [sink_deliver], trouble_deliver_eq_none_iff, ?_⟩
  · rw [hfailure]
    by_cases hroom : s.HasRoom (bytes d).length
    · rw [if_pos hroom]
      exact ⟨fun h => ⟨hroom, h⟩, fun h => h.2⟩
    · rw [if_neg hroom]
      simp [hroom]
  · intro hfull
    rw [hfailure, if_neg hfull]
    rfl
  · intro hroom
    rw [hfailure, if_pos hroom]
    rfl
  · intro reason hreason hkind
    exact ⟨.writing reason, trouble_deliver_eq_some_iff.mpr ⟨reason, hreason, hkind, rfl⟩, rfl, rfl⟩

/-- A device that is full after five bytes, which arrive one by one, with an interruption between. -/
theorem print_and_deliver_full :
    ¬ (Sink.HasRoom ⟨[], some 5, some .deviceFull, [.upTo 0, .interrupted, .upTo 0], none⟩
        (bytes Digest.empty).length) ∧
      ∃ t, (deliver Digest.empty
          ⟨[], some 5, some .deviceFull, [.upTo 0, .interrupted, .upTo 0], none⟩).trouble = some t ∧
        t.headline = "Failed to write report" ∧ t.cause = .deviceFull := by
  have hfull : ¬ (Sink.HasRoom
      ⟨[], some 5, some .deviceFull, [.upTo 0, .interrupted, .upTo 0], none⟩
      (bytes Digest.empty).length) := by
    decide
  obtain ⟨-, -, hrefused, -, -, -, htrouble⟩ := print_and_deliver Digest.empty
    ⟨[], some 5, some .deviceFull, [.upTo 0, .interrupted, .upTo 0], none⟩
  exact ⟨hfull, htrouble .deviceFull (hrefused hfull) (by decide)⟩

end DiagnosticDigest.Report
