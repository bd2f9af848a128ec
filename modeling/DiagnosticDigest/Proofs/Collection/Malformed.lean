import DiagnosticDigest.Proofs.Blank
import DiagnosticDigest.Proofs.Collection.Notes
import DiagnosticDigest.Proofs.Json.Faults

/-!
# Lines that are no JSON

A text that is no record is noted with the line and the column of its fault. The place is the end of the
text, or behind a number that is out of range, or the first byte that no record can have there. So a
record that is cut short ends too early, if it is not one still. Lines of a stream are noted as they are
after trimming, on a single line.
-/

namespace DiagnosticDigest

open Intake (lineFeed Closed)
open Utf8 (encode)

/-! ## Texts -/

namespace Entry

theorem readRecord_eq_error_iff {text : String} {dismissal : Dismissal} :
    readRecord text = .error dismissal ↔
      ∃ fault, Json.parse text = .error fault ∧ dismissal = .malformed fault text := by
  rw [readRecord]
  cases Json.parse text with
  | ok record => simp
  | error fault => simp [eq_comm]

/-- A line that is dismissed as no JSON is no JSON once it is trimmed, and not blank. -/
theorem ofLine_eq_malformed {line text : String} {fault : Json.Fault}
    (h : ofLine line = .error (.malformed fault text)) :
    text = Text.trim line ∧ text ≠ "" ∧ Json.parse text = .error fault := by
  rw [ofLine] at h
  generalize Text.trim line = trimmed at h
  by_cases hblank : trimmed = ""
  · simp [hblank] at h
  · simp only [hblank, if_false, ofText] at h
    rw [readRecord] at h
    cases hparse : Json.parse trimmed with
    | error found =>
      obtain ⟨rfl, rfl⟩ : found = fault ∧ trimmed = text := by simpa [hparse] using h
      exact ⟨rfl, hblank, hparse⟩
    | ok record =>
      simp only [hparse] at h
      simpa using dismissal_of_ofRecord h

end Entry

/-! ## Lines without a line feed -/

theorem lineFeed_mem_encode {text : String} : lineFeed ∈ encode text ↔ '\n' ∈ text.toList := by
  constructor
  · intro h
    obtain ⟨c, hc, hvalue⟩ := Utf8.mem_encode_ascii (by decide) h
    obtain rfl : c = '\n' := by
      rw [← Char.ofNat_toNat c, hvalue]
      rfl
    exact hc
  · intro h
    rw [Utf8.encode_eq_flatMap, List.mem_flatMap]
    exact ⟨'\n', h, by decide⟩

/-- Of a line that holds a text nothing but its end is a line feed, and that is trimmed off. -/
theorem lineFeed_notMem_trim {bytes : List UInt8} {line : String}
    (h : encode line ∈ Intake.linesOf bytes) : lineFeed ∉ encode (Text.trim line) := by
  obtain ⟨body, hbody, hline⟩ := Intake.exists_body_of_mem_linesOf h
  have hcore : ∃ core, Text.trim line = Text.trim core ∧ encode core = body := by
    rcases hline with hline | hline
    · obtain ⟨core, hcore⟩ := (Utf8.exists_encode_iff_of_append hline).mpr ⟨"\n", rfl⟩
      have hwhole : line = "" ++ core ++ "\n" := by
        apply Utf8.encode_injective
        rw [Utf8.encode_append, Utf8.encode_append, hcore, hline]
        rfl
      exact ⟨core, Text.trim_padded ⟨"", "\n", by decide, by decide, hwhole⟩, hcore⟩
    · exact ⟨line, rfl, hline⟩
  obtain ⟨core, htrim, rfl⟩ := hcore
  rw [lineFeed_mem_encode] at hbody
  rw [htrim, lineFeed_mem_encode]
  exact fun hmem => hbody (Text.mem_of_mem_trim hmem)

/-! ## Places -/

/-- Line and column of a fault: the line feeds in front of it, and the bytes behind the last of them. -/
theorem exists_place (fault : Json.Fault) (text : String) :
    ∃ before behind, (encode text).take (fault.offset text) = before ++ behind ∧ Closed before ∧
      lineFeed ∉ behind ∧
      fault.location text = ⟨1 + ((encode text).take (fault.offset text)).count lineFeed,
        fault.offset text - before.length⟩ := by
  obtain ⟨before, behind, hsplit, hbefore, hbehind⟩ :=
    Intake.exists_closed_append ((encode text).take (fault.offset text))
  refine ⟨before, behind, hsplit, hbefore, hbehind, ?_⟩
  have hlength := congrArg List.length hsplit
  rw [List.length_take_of_le (fault.offset_le text), List.length_append] at hlength
  rw [Json.Fault.location, hsplit, Json.Location.after_append hbefore hbehind, hlength,
    Nat.add_sub_cancel_left]

/-- On a text without a line feed a fault lies on the first line. -/
theorem location_of_notMem {text : String} (h : lineFeed ∉ encode text) (fault : Json.Fault) :
    fault.location text = ⟨1, fault.offset text⟩ := by
  obtain ⟨before, behind, hsplit, hbefore, hbehind, hlocation⟩ := exists_place fault text
  have hfront : lineFeed ∉ (encode text).take (fault.offset text) := fun hmem =>
    h (List.mem_of_mem_take hmem)
  have hnone : before = [] := by
    rcases hbefore with hnil | hlast
    · exact hnil
    · refine absurd ?_ hfront
      rw [hsplit, List.mem_append]
      exact .inl (List.mem_of_getLast? hlast)
  rw [hlocation, List.count_eq_zero_of_not_mem hfront, hnone, List.length_nil]
  rfl

theorem describe_of_location {fault : Json.Fault} {text : String} {line column : Nat}
    (h : fault.location text = ⟨line, column⟩) :
    fault.describe text = fault.cause.message ++ " at line " ++ toString line ++ " column " ++
      toString column := by
  simp only [Json.Fault.describe, h]

theorem message_malformed {fault : Json.Fault} {text : String} {line column : Nat}
    (h : fault.location text = ⟨line, column⟩) :
    (Note.malformed fault text).message =
      "Skipping malformed line (" ++ (fault.cause.message ++ " at line " ++ toString line ++
        " column " ++ toString column) ++ "): " ++ text :=
  congrArg (fun described => "Skipping malformed line (" ++ described ++ "): " ++ text)
    (describe_of_location h)

/-! ## Notes -/

/-- That a line is no JSON is noted of lines that are dismissed as such. -/
theorem malformed_mem_notes {d : Digest} {source : Source} {fault : Json.Fault} {text : String}
    (h : Note.malformed fault text ∈ (collect d source).1.notes) :
    ∃ line, encode line ∈ source.fullLines ∧
      Entry.ofLine line = .error (.malformed fault text) := by
  rw [collect_fullLines, Collection.mem_notes_addLines_iff] at h
  rcases h with hstart | ⟨before, bytes, after, hlines, hremark⟩
  · simp [Collection.start] at hstart
  · rw [Collection.remark?, Entry.ofBytes] at hremark
    cases hdecode : Utf8.decode bytes with
    | error found => simp [hdecode, Dismissal.note?] at hremark
    | ok line =>
      obtain rfl := Utf8.decode_eq_ok_iff.mp hdecode
      refine ⟨line, by simp [hlines], ?_⟩
      simp only [hdecode] at hremark
      cases hline : Entry.ofLine line with
      | ok e =>
        simp only [hline] at hremark
        split at hremark <;> simp at hremark
      | error dismissal =>
        simp only [hline] at hremark
        cases dismissal <;> simp_all [Dismissal.note?]

/-- A text that is no record is noted with the place of its fault: its line is one more than the line
feeds in front of the place, and its column the number of bytes behind the last of them. If the text
ends too early, the place is its end, and otherwise, unless a number is out of range, it lies behind
some byte, and no text that begins with the bytes in front of it is a record. So a record that is cut
short is a record still, ends too early, or has a number out of range. While a stream is read, what is
noted is a trimmed line, and the place is on its first line, behind some byte. -/
theorem malformed_points_at_fault :
    (∀ text dismissal, Entry.readRecord text = .error dismissal →
      ∃ (fault : Json.Fault) (i : Nat) (before behind : List UInt8),
        dismissal = .malformed fault text ∧ i ≤ (encode text).length ∧
        (encode text).take i = before ++ behind ∧
        (before = [] ∨ before.getLast? = some lineFeed) ∧ lineFeed ∉ behind ∧
        (Note.malformed fault text).message =
          "Skipping malformed line (" ++ (fault.cause.message ++ " at line " ++
            toString (1 + ((encode text).take i).count lineFeed) ++
            " column " ++ toString (i - before.length)) ++ "): " ++ text ∧
        ("EOF while parsing".toList <+: fault.cause.message.toList → i = (encode text).length) ∧
        (¬ "EOF while parsing".toList <+: fault.cause.message.toList →
          fault.cause.message ≠ "number out of range" →
          1 ≤ i ∧ ∀ other record, (encode text).take i <+: encode other →
            Entry.readRecord other ≠ .ok record)) ∧
    (∀ front back record, Entry.readRecord (front ++ back) = .ok record →
      (∃ record, Entry.readRecord front = .ok record) ∨
      ∃ fault, Entry.readRecord front = .error (.malformed fault front) ∧
        ("EOF while parsing".toList <+: fault.cause.message.toList ∨
          fault.cause.message = "number out of range")) ∧
    ∀ d source fault text, Note.malformed fault text ∈ (collect d source).1.notes →
      ∃ line column, encode line ∈ source.fullLines ∧ text = Text.trim line ∧
        1 ≤ column ∧ column ≤ (encode text).length ∧
        (Note.malformed fault text).message =
          "Skipping malformed line (" ++ (fault.cause.message ++ " at line " ++ toString 1 ++
            " column " ++ toString column) ++ "): " ++ text := by
  refine ⟨?_, ?_, ?_⟩
  · intro text dismissal h
    obtain ⟨fault, hparse, rfl⟩ := Entry.readRecord_eq_error_iff.mp h
    obtain ⟨before, behind, hsplit, hbefore, hbehind, hlocation⟩ := exists_place fault text
    refine ⟨fault, fault.offset text, before, behind, rfl, fault.offset_le text, hsplit, hbefore,
      hbehind, message_malformed hlocation, ?_, ?_⟩
    · intro hmessage
      have hend := Json.Cause.isEnd_iff.mpr hmessage
      cases Json.failsAt_of_parse hparse with
      | ended hcause hoffset => exact hoffset
      | outOfRange hcause => simp [hcause, Json.Cause.isEnd] at hend
      | refused hcause => simp [hcause] at hend
    · intro hend hrange
      cases Json.failsAt_of_parse hparse with
      | ended hcause => exact absurd (Json.Cause.isEnd_iff.mp hcause) hend
      | outOfRange hcause => exact absurd (Json.Cause.eq_numberOutOfRange_iff.mp hcause) hrange
      | refused hcause hoffset hrefuses =>
        refine ⟨hoffset, ?_⟩
        intro other record hother hrecord
        exact hrefuses other record hother (Entry.readRecord_eq_ok_iff.mp hrecord)
  · intro front back record hwhole
    cases hfront : Entry.readRecord front with
    | ok found => exact .inl ⟨found, rfl⟩
    | error dismissal =>
      obtain ⟨fault, hparse, rfl⟩ := Entry.readRecord_eq_error_iff.mp hfront
      refine .inr ⟨fault, rfl, ?_⟩
      rw [← Json.Cause.isEnd_iff, ← Json.Cause.eq_numberOutOfRange_iff]
      exact Json.cause_of_parse_front (Entry.readRecord_eq_ok_iff.mp hwhole) hparse
  · intro d source fault text h
    obtain ⟨line, hline, hdismissed⟩ := malformed_mem_notes h
    obtain ⟨rfl, hne, hparse⟩ := Entry.ofLine_eq_malformed hdismissed
    have hfeed := lineFeed_notMem_trim (source.fullLines_prefix.subset hline)
    exact ⟨line, fault.offset (Text.trim line), hline, rfl, Json.offset_pos_of_parse hparse hne,
      fault.offset_le _, message_malformed (location_of_notMem hfeed fault)⟩

/-- A number with a zero too many, on the second line of a text and as a line of a stream; and a literal
that is cut short. -/
theorem malformed_points_at_fault_zero :
    (Entry.readRecord " \n 01" = .error (.malformed ⟨.invalidNumber, 0⟩ " \n 01") ∧
      (Note.malformed ⟨.invalidNumber, 0⟩ " \n 01").message =
        "Skipping malformed line (invalid number at line 2 column 3):  \n 01" ∧
      ∀ other record, encode " \n 01" <+: encode other → Entry.readRecord other ≠ .ok record) ∧
    (Entry.readRecord ("tr" ++ "ue") = .ok (.bool true) ∧
      ∃ fault, Entry.readRecord "tr" = .error (.malformed fault "tr") ∧
        ("EOF while parsing".toList <+: fault.cause.message.toList ∨
          fault.cause.message = "number out of range")) ∧
    (Note.malformed ⟨.invalidNumber, 0⟩ "01" ∈
        (collect Digest.empty [.piece 0x20 [0x30, 0x31, 10]]).1.notes ∧
      ∃ line column, encode line ∈ Source.fullLines [.piece 0x20 [0x30, 0x31, 10]] ∧
        "01" = Text.trim line ∧ 1 ≤ column ∧ column ≤ (encode "01").length ∧
        (Note.malformed ⟨.invalidNumber, 0⟩ "01").message =
          "Skipping malformed line (" ++ ("invalid number" ++ " at line " ++ toString 1 ++
            " column " ++ toString column) ++ "): " ++ "01") := by
  have hzero : Entry.readRecord " \n 01" = .error (.malformed ⟨.invalidNumber, 0⟩ " \n 01") := rfl
  have hwhole : Entry.readRecord ("tr" ++ "ue") = .ok (.bool true) := rfl
  have hnoted : Note.malformed ⟨.invalidNumber, 0⟩ "01" ∈
      (collect Digest.empty [.piece 0x20 [0x30, 0x31, 10]]).1.notes := by
    decide +kernel
  obtain ⟨hplace, hcut, hstream⟩ := malformed_points_at_fault
  refine ⟨⟨hzero, by decide +kernel, ?_⟩, ⟨hwhole, ?_⟩, hnoted, hstream _ _ _ _ hnoted⟩
  · obtain ⟨fault, i, -, -, hfault, -, -, -, -, -, -, hrefuses⟩ := hplace _ _ hzero
    intro other record hother
    cases hfault
    exact (hrefuses (by decide) (by decide)).2 other record ((List.take_prefix _ _).trans hother)
  · rcases hcut _ _ _ hwhole with ⟨record, hrecord⟩ | hfault
    · cases hrecord
    · exact hfault

end DiagnosticDigest
