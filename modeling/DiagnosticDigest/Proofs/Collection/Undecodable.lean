import DiagnosticDigest.Proofs.Collection.Notes
import DiagnosticDigest.Proofs.Utf8.Faults

/-!
# Lines that are no text

A line of a stream is skipped with a note of its number exactly if its bytes are not those of a text,
and the note tells where the text ends and what is wrong behind it. Only a last line without a line feed
can end inside a character.
-/

namespace DiagnosticDigest

open Intake (lineFeed)

namespace Utf8

/-- The bytes of a character that has more of them are not ASCII. -/
theorem Unfinished.notMem_ascii {bytes : List UInt8} (h : Unfinished bytes) {b : UInt8}
    (hb : b.toNat < 0x80) : b ∉ bytes := by
  obtain ⟨c, hstart, hlength⟩ := h
  intro hmem
  have hc : c.toNat = b.toNat := toNat_eq_of_mem hb (hstart.subset hmem)
  rw [utf8Size_ascii (by omega), Nat.lt_one_iff, List.length_eq_zero_iff] at hlength
  simp [hlength] at hmem

/-- Bytes that end in a line feed do not end inside a character. -/
theorem decode_ne_incomplete (body : List UInt8) (index : Nat) :
    decode (body ++ [lineFeed]) ≠ .error (.incomplete index) := by
  intro h
  obtain ⟨text, behind, hbytes, hfault⟩ := exists_at_of_decode h
  generalize hsame : Fault.incomplete index = fault at hfault
  cases hfault with
  | invalid => simp at hsame
  | incomplete hne hunfinished =>
    rw [← List.dropLast_append_getLast hne, ← List.append_assoc] at hbytes
    have hlast : lineFeed = behind.getLast hne := by
      simpa using (List.append_inj' hbytes rfl).2
    refine hunfinished.notMem_ascii (by decide : lineFeed.toNat < 0x80) ?_
    rw [hlast]
    exact List.getLast_mem hne

end Utf8

namespace Entry

/-- A line that is a text is dismissed for other reasons. -/
theorem ofLine_ne_undecodable (line : String) (fault : Utf8.Fault) :
    ofLine line ≠ .error (.undecodable fault) := by
  rw [ofLine]
  generalize Text.trim line = text
  by_cases hblank : text = ""
  · simp [hblank]
  · simp only [hblank, if_false, ofText]
    rw [readRecord]
    cases Json.parse text with
    | error fault => simp
    | ok record =>
      intro h
      simpa using dismissal_of_ofRecord h

theorem ofBytes_eq_undecodable_iff {bytes : List UInt8} {fault : Utf8.Fault} :
    ofBytes bytes = .error (.undecodable fault) ↔ Utf8.decode bytes = .error fault := by
  rw [ofBytes]
  cases Utf8.decode bytes with
  | ok line => simp [ofLine_ne_undecodable]
  | error found => simp

end Entry

namespace Collection

theorem addLine_undecodable {c : Collection} {bytes : List UInt8} {fault : Utf8.Fault}
    (h : Utf8.decode bytes = .error fault) :
    c.addLine bytes = ⟨c.digest, c.lines + 1, c.notes ++ [.undecodable (c.lines + 1) fault]⟩ := by
  rw [addLine, Entry.ofBytes_eq_undecodable_iff.mpr h]
  rfl

/-- That a line is no text is noted exactly if it is none, with its number. -/
theorem remark?_eq_undecodable_iff {c : Collection} {bytes : List UInt8} {number : Nat}
    {fault : Utf8.Fault} :
    c.remark? bytes = some (.undecodable number fault) ↔
      number = c.lines + 1 ∧ Utf8.decode bytes = .error fault := by
  constructor
  · intro h
    refine ⟨number_of_remark? h, Entry.ofBytes_eq_undecodable_iff.mp ?_⟩
    rw [remark?] at h
    cases hbytes : Entry.ofBytes bytes with
    | ok e => cases hnew : c.digest.isNew e <;> simp [hbytes, hnew] at h
    | error dismissal => cases dismissal <;> simp_all [Dismissal.note?]
  · rintro ⟨rfl, h⟩
    rw [remark?, Entry.ofBytes_eq_undecodable_iff.mpr h]
    rfl

end Collection

/-- Of the lines of a source, that one with some number is noted to be no text exactly if it is none. -/
theorem undecodable_mem_notes_iff {d : Digest} {source : Source} {before after : List (List UInt8)}
    {line : List UInt8} (h : source.fullLines = before ++ line :: after) {fault : Utf8.Fault} :
    Note.undecodable (before.length + 1) fault ∈ (collect d source).1.notes ↔
      Utf8.decode line = .error fault := by
  have hnumber : ∀ lines, ((Collection.start d).addLines lines).lines = lines.length := by
    intro lines
    rw [Collection.lines_addLines, Collection.start, Nat.zero_add]
  rw [collect_fullLines, Collection.mem_notes_addLines_iff]
  simp only [Collection.remark?_eq_undecodable_iff, hnumber]
  constructor
  · rintro (hstart | ⟨first, other, last, hlines, hlength, hdecode⟩)
    · simp [Collection.start] at hstart
    · rw [h] at hlines
      obtain ⟨-, hsame⟩ := List.append_inj hlines (by omega)
      obtain ⟨rfl, -⟩ := List.cons.inj hsame
      exact hdecode
  · intro hdecode
    exact .inr ⟨before, line, after, h, rfl, hdecode⟩

open Utf8 in
/-- Of the lines of a source, those are skipped as undecodable that are the bytes of no text. Such a line
counts, leaves the digest as it is and is noted with its number. The note tells how long the longest
beginning is that is text. It calls what follows incomplete exactly if further bytes would make it begin
with a character, which can only be on a last line without a line feed; otherwise it tells how many of
the bytes there a character begins with, and one byte if none does. -/
theorem collect_skips_undecodable_lines (d : Digest) (source : Source)
    (before after : List (List UInt8)) (line : List UInt8)
    (h : source.fullLines = before ++ line :: after) :
    ((∃ fault, Note.undecodable (before.length + 1) fault ∈ (collect d source).1.notes) ↔
      ∀ text, encode text ≠ line) ∧
    ∀ fault, Note.undecodable (before.length + 1) fault ∈ (collect d source).1.notes →
      (∃ c, collect d (Source.whole before.flatten) = (c, none) ∧
        collect d (Source.whole (before ++ [line]).flatten) =
          (⟨c.digest, c.lines + 1, c.notes ++ [.undecodable (before.length + 1) fault]⟩, none)) ∧
      ∃ text rest, line = encode text ++ rest ∧
        (∀ other more, line = encode other ++ more →
          (encode other).length ≤ (encode text).length) ∧
        (Completable rest ∧ after = [] ∧ lineFeed ∉ line ∧
            (Note.undecodable (before.length + 1) fault).message =
              "Skipping line " ++ toString (before.length + 1) ++ " with invalid UTF-8: " ++
                ("incomplete utf-8 byte sequence from index " ++ toString (encode text).length) ∨
          ¬ Completable rest ∧ ∃ n, LongestStart rest n ∧ n ≤ 3 ∧
            (Note.undecodable (before.length + 1) fault).message =
              "Skipping line " ++ toString (before.length + 1) ++ " with invalid UTF-8: " ++
                ("invalid utf-8 sequence of " ++ toString (max 1 n) ++ " bytes from index " ++
                  toString (encode text).length)) := by
  have hlines : before ++ [line] <+: Intake.linesOf source.bytes := by
    refine List.IsPrefix.trans ⟨after, ?_⟩ source.fullLines_prefix
    simp [h]
  have hbefore : before <+: Intake.linesOf source.bytes := (List.prefix_append _ _).trans hlines
  simp only [undecodable_mem_notes_iff h]
  constructor
  · constructor
    · rintro ⟨fault, hfault⟩
      exact (decode_eq_error_iff.mp hfault).1
    · intro hnot
      cases hdecode : decode line with
      | ok text => exact absurd (decode_eq_ok_iff.mp hdecode) (hnot text)
      | error fault => exact ⟨fault, rfl⟩
  · intro fault hfault
    refine ⟨⟨_, collect_beginning hbefore d, ?_⟩, ?_⟩
    · have hnumber : ((Collection.start d).addLines before).lines = before.length := by
        rw [Collection.lines_addLines, Collection.start, Nat.zero_add]
      rw [collect_beginning hlines, Collection.addLines_append, ← hnumber]
      exact congrArg (·, none) (Collection.addLine_undecodable hfault)
    · obtain ⟨text, rest, hline, hlongest, hrest⟩ := (decode_eq_error_iff.mp hfault).2
      refine ⟨text, rest, hline, hlongest, ?_⟩
      rcases hrest with ⟨hcompletable, rfl⟩ | ⟨hcompletable, n, hn, hle, rfl⟩
      · have hmem : line ∈ Intake.linesOf source.bytes := hlines.subset (by simp)
        obtain ⟨body, hbody, rfl | rfl⟩ := Intake.exists_body_of_mem_linesOf hmem
        · exact absurd hfault (decode_ne_incomplete body _)
        · refine .inl ⟨hcompletable, ?_, hbody, rfl⟩
          -- a line in front of others ends in a line feed
          by_contra hafter
          have hclosed := source.closed_of_fullLines_eq h hafter
          have hempty := (Intake.closed_append_iff (.inl rfl) hbody).mp hclosed
          exact (decode_eq_error_iff.mp hfault).1 "" hempty.symm
      · exact .inr ⟨hcompletable, n, hn, hle, rfl⟩

/-- A line with a byte that no text has, and a last line that ends inside a character. -/
theorem collect_skips_undecodable_lines_last :
    Source.fullLines [.piece 0xFF [10, 0x41], .interrupted, .piece 0xE2 [0x82]] =
        [[0xFF, 10]] ++ [0x41, 0xE2, 0x82] :: [] ∧
      (collect Digest.empty [.piece 0xFF [10, 0x41], .interrupted, .piece 0xE2 [0x82]]).1.notes =
        [.undecodable 1 (.invalid 1 0), .undecodable 2 (.incomplete 1)] ∧
      ∀ text, Utf8.encode text ≠ [0x41, 0xE2, 0x82] := by
  have hlines : Source.fullLines [.piece 0xFF [10, 0x41], .interrupted, .piece 0xE2 [0x82]] =
      [[0xFF, 10]] ++ [0x41, 0xE2, 0x82] :: [] := by
    decide +kernel
  have hnotes :
      (collect Digest.empty [.piece 0xFF [10, 0x41], .interrupted, .piece 0xE2 [0x82]]).1.notes =
        [.undecodable 1 (.invalid 1 0), .undecodable 2 (.incomplete 1)] := by
    decide +kernel
  refine ⟨hlines, hnotes, (collect_skips_undecodable_lines Digest.empty _ _ _ _ hlines).1.mp ?_⟩
  exact ⟨.incomplete 1, by simp [hnotes]⟩

end DiagnosticDigest
