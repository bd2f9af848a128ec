import DiagnosticDigest.Proofs.Digest
import DiagnosticDigest.Proofs.Records

/-!
# Collecting does not depend on the delivery

What collecting a stream gives, said of its bytes alone. Without a failure every line counts and the
digest gains the lines of exactly the entries that the lines of the stream give; the pieces and
interruptions of the delivery leave no trace. After a failure everything is as if the stream had
ended behind its last complete line, so that reading on from there loses nothing.
-/

namespace DiagnosticDigest

namespace Intake

/-- The longest beginning of bytes that leaves no line open. -/
structure ClosedPart (part bytes : List UInt8) : Prop where
  beginning : part <+: bytes
  closed : Closed part
  longest : ∀ other, other <+: bytes → Closed other → other.length ≤ part.length

theorem closedPart_append {closed rest : List UInt8} (hclosed : Closed closed)
    (hrest : lineFeed ∉ rest) : ClosedPart closed (closed ++ rest) := by
  refine ⟨List.prefix_append _ _, hclosed, ?_⟩
  intro other hother hclosedOther
  by_contra hlong
  have hle : closed.length ≤ other.length := by omega
  obtain ⟨tail, rfl⟩ := List.prefix_of_prefix_length_le (List.prefix_append _ _) hother hle
  have htail : tail <+: rest := (List.prefix_append_right_inj closed).mp hother
  have hfeed : lineFeed ∉ tail := fun hmem => hrest (htail.subset hmem)
  rw [(closed_append_iff hclosed hfeed).mp hclosedOther] at hlong
  simp at hlong

end Intake

/-- A source that is read to its end is collected without a failure. Every line counts, and the
digest afterwards holds its old lines and those of the entries that lines of the stream give: each
under its severity, and no others. -/
theorem collect_takes_every_line (d : Digest) (source : Source) (h : source.Unfailing) :
    (∃ c, collect d source = (c, none) ∧
      c.lines = source.bytes.count Intake.lineFeed +
        (if source.bytes = [] ∨ source.bytes.getLast? = some Intake.lineFeed then 0 else 1) ∧
      ∀ severity line, line ∈ c.digest.linesOf severity ↔
        line ∈ d.linesOf severity ∨
          ∃ text e, Utf8.encode text ∈ Intake.linesOf source.bytes ∧ Entry.ofLine text = .ok e ∧
            e.severity = severity ∧ e.line = line) ∧
    Digest.ofSource source =
      .ok (Digest.ofEntries ((Intake.linesOf source.bytes).filterMap Entry.ofBytes?)) := by
  constructor
  · refine ⟨_, collect_unfailing h d, ?_, ?_⟩
    · rw [Collection.lines_addLines, Intake.length_linesOf, Collection.start, Nat.zero_add]
      rfl
    · intro severity line
      rw [Collection.digest_addLines, Digest.mem_linesOf_insertAll]
      exact or_congr_right Intake.exists_mem_entriesOf_iff
  · exact Digest.ofSource_unfailing h

/-- An interrupted stream of two records, an undecodable line between them and a blank line that is left
open: four lines, and one in each section. -/
theorem collect_takes_every_line_undecodable :
    ∃ (w e : Entry) (bytes : List UInt8), bytes =
        Utf8.encode w.recordLine ++ ([0xFF, 10] ++ (Utf8.encode e.recordLine ++ [0x20])) ∧
      (∀ text, Utf8.encode text ≠ [0xFF, 10]) ∧
      Source.Unfailing (.interrupted :: Source.whole bytes) ∧
      (∃ c, collect Digest.empty (.interrupted :: Source.whole bytes) = (c, none) ∧ c.lines = 4 ∧
        (∀ line, line ∈ c.digest.linesOf .error ↔ line = "error|a.rs:1|m") ∧
        ∀ line, line ∈ c.digest.linesOf .warning ↔ line = "warning|b.rs:2|w") ∧
      Digest.ofSource (.interrupted :: Source.whole bytes) = .ok (Digest.ofEntries [w, e]) := by
  obtain ⟨w, hw⟩ : ∃ e : Entry, e = ⟨.warning, "b.rs", "2", "w"⟩ := ⟨_, rfl⟩
  obtain ⟨e, he⟩ : ∃ e : Entry, e = ⟨.error, "a.rs", "1", "m"⟩ := ⟨_, rfl⟩
  obtain ⟨bytes, hstream⟩ : ∃ bytes, bytes =
      Utf8.encode w.recordLine ++ ([0xFF, 10] ++ (Utf8.encode e.recordLine ++ [0x20])) := ⟨_, rfl⟩
  have hnoText : ∀ text, Utf8.encode text ≠ [0xFF, 10] := by
    have hfault : (Utf8.decode [0xFF, 10]).toOption = none := by
      decide
    intro text htext
    rw [Utf8.decode_eq_ok_iff.mpr htext] at hfault
    contradiction
  have hlines : Intake.linesOf bytes =
      [Utf8.encode w.recordLine, [0xFF, 10], Utf8.encode e.recordLine, [0x20]] := by
    rw [hstream, Intake.linesOf_append w.closed_recordLine,
      Intake.linesOf_append (by decide : Intake.Closed [0xFF, 10]),
      Intake.linesOf_append e.closed_recordLine, w.linesOf_recordLine, e.linesOf_recordLine]
    rfl
  have hentries : Intake.entriesOf bytes = [w, e] := by
    rw [Intake.entriesOf, hlines, List.filterMap_cons_some w.ofBytes?_recordLine,
      List.filterMap_cons_none (by decide), List.filterMap_cons_some e.ofBytes?_recordLine]
    rfl
  have hread : Source.Unfailing (.interrupted :: Source.whole bytes) := by
    intro reason hmem
    rcases List.mem_cons.mp hmem with heq | hmem
    · contradiction
    · exact Source.unfailing_whole bytes reason hmem
  have hbytes : Source.bytes (.interrupted :: Source.whole bytes) = bytes := Source.bytes_whole bytes
  obtain ⟨⟨c, hcollect, hcount, hsections⟩, hdigest⟩ :=
    collect_takes_every_line Digest.empty _ hread
  rw [hbytes] at hcount hsections hdigest
  have hsection : ∀ severity line, line ∈ c.digest.linesOf severity ↔
      ∃ other ∈ Intake.entriesOf bytes, other.severity = severity ∧ other.line = line := by
    intro severity line
    rw [hsections, Intake.exists_mem_entriesOf_iff]
    refine or_iff_right ?_
    cases severity <;> exact List.not_mem_nil
  rw [hentries] at hsection
  have hfour : c.lines = 4 := by
    rw [hcount]
    refine (Intake.length_linesOf bytes).symm.trans ?_
    rw [hlines]
    rfl
  have hwarning : w.severity = .warning ∧ w.line = "warning|b.rs:2|w" := by
    rw [hw]
    decide
  have herror : e.severity = .error ∧ e.line = "error|a.rs:1|m" := by
    rw [he]
    decide
  refine ⟨w, e, bytes, hstream, hnoText, hread, ⟨c, hcollect, hfour, ?_, ?_⟩, ?_⟩
  · intro line
    simp [hsection, hwarning, herror, eq_comm]
  · intro line
    simp [hsection, hwarning, herror, eq_comm]
  · rw [hdigest, ← hentries]
    rfl

/-- How a stream is delivered does not matter. Read to its end, it is collected as if it had arrived
at once; cut off by a failure, as if it had ended behind its last complete line, and reading on from
there gives the digest of the whole stream. -/
theorem collect_of_delivery (d : Digest) (bytes : List UInt8) :
    (∀ source : Source, source.Unfailing → source.bytes = bytes →
      collect d source = collect d (Source.whole bytes)) ∧
    ∀ (before after : Source) (reason : Failure) (k : Nat),
      before.Unfailing → before.bytes = bytes.take k →
      ∃ part, Intake.ClosedPart part (bytes.take k) ∧
        collect d (before ++ .failure reason :: after) =
          ((collect d (Source.whole part)).1, some reason) ∧
        (∀ rest : Source, rest.Unfailing → rest.bytes = bytes.drop part.length →
          (collect (collect d (before ++ .failure reason :: after)).1.digest rest).1.digest =
            (collect d (Source.whole bytes)).1.digest) ∧
        Digest.ofSource (before ++ .failure reason :: after) = .error reason := by
  constructor
  · intro source hsource hbytes
    rw [collect_unfailing hsource, collect_unfailing (Source.unfailing_whole bytes), hbytes,
      Source.bytes_whole]
  · intro before after reason k hbefore hbytes
    obtain ⟨part, line, htake, hpart, hline⟩ := Intake.exists_closed_append (bytes.take k)
    have hfailing := collect_failing hbefore (hbytes.trans htake) hpart hline reason after
    refine ⟨part, htake ▸ Intake.closedPart_append hpart hline, ?_, ?_, ?_⟩
    · rw [hfailing, collect_unfailing (Source.unfailing_whole part), Source.bytes_whole]
    · intro rest hrest hdrop
      -- the lines of the whole stream are those before the failure and those read afterwards
      have hwhole : bytes = part ++ rest.bytes := by
        have hbeginning : part <+: bytes :=
          (List.prefix_append part line).trans (htake ▸ List.take_prefix k bytes)
        rw [hdrop]
        exact (List.prefix_iff_eq_append.mp hbeginning).symm
      rw [hfailing, collect_unfailing hrest, collect_unfailing (Source.unfailing_whole bytes),
        Source.bytes_whole, hwhole, Intake.linesOf_append hpart, Collection.addLines_append]
      simp only [Collection.digest_addLines, Collection.start]
    · rw [Digest.ofSource, hfailing]

/-- A failure at the very end of a stream drops its last line, and delivering that line again after
the failure makes up for it. -/
theorem collect_of_delivery_cut_at_end :
    Source.Unfailing [.piece 0x31 [10], .interrupted, .piece 0x32 []] ∧
      (∃ part, Intake.ClosedPart part [0x31, 10, 0x32] ∧
        (collect Digest.empty [.piece 0x31 [10], .interrupted, .piece 0x32 [],
          .failure Failure.closedPipe]) =
          ((collect Digest.empty (Source.whole part)).1, some Failure.closedPipe)) ∧
      collect Digest.empty [.piece 0x31 [10], .interrupted, .piece 0x32 []] =
        collect Digest.empty (Source.whole [0x31, 10, 0x32]) := by
  have h : Source.Unfailing [.piece 0x31 [10], .interrupted, .piece 0x32 []] := by
    intro reason
    simp
  obtain ⟨hread, hcut⟩ := collect_of_delivery Digest.empty [0x31, 10, 0x32]
  obtain ⟨part, hpart, hcollect, -⟩ := hcut _ [] Failure.closedPipe 3 h rfl
  exact ⟨h, ⟨part, hpart, hcollect⟩, hread _ h rfl⟩

end DiagnosticDigest
