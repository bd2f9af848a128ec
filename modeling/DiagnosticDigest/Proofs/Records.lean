import DiagnosticDigest.Proofs.Digest
import DiagnosticDigest.Proofs.Json.Compact
import DiagnosticDigest.Proofs.Json.RoundTrip

/-!
# Records

Which texts are records, and that an entry that is written as a record comes back unchanged, alone
and in a stream.

## Main definitions

* `Entry.record` — an entry as a record with a single span.
* `Entry.recordLine` — the line of a stream that holds the record of an entry.
-/

namespace DiagnosticDigest

open Json Written

namespace Entry

/-! ## Which texts are records -/

theorem readRecord_eq_ok_iff {text : String} {record : Json} :
    readRecord text = .ok record ↔ parse text = .ok record := by
  rw [readRecord]
  cases parse text <;> simp

/-- A text is a record exactly if it is a value as the grammar has it, with blanks around it, in which
arrays and objects are nested at most 127 deep, every surrogate that is written by its number is half
of a pair, and every number is in range. -/
theorem exists_readRecord_iff (text : String) :
    (∃ record, readRecord text = .ok record) ↔
      ∃ (before after : Blanks) (t : Tree), before.text ++ t.text ++ after.text = text.toList ∧
        t.depth ≤ 127 ∧
        (∀ pieces, Token.string pieces ∈ t.tokens → Paired pieces) ∧
        ∀ n, Token.number n ∈ t.tokens → n.InRange := by
  simp only [readRecord_eq_ok_iff, parse_eq_ok_iff]
  constructor
  · rintro ⟨record, before, after, t, htext, ⟨hdepth, htokens⟩, -⟩
    exact ⟨before, after, t, htext, hdepth, fun pieces h => htokens _ h, fun n h => htokens _ h⟩
  · rintro ⟨before, after, t, htext, hdepth, hstrings, hnumbers⟩
    refine ⟨t.value, before, after, t, htext, ⟨hdepth, ?_⟩, rfl⟩
    intro token htoken
    cases token with
    | string pieces => exact hstrings pieces htoken
    | number n => exact hnumbers n htoken

/-! ## Entries written as records -/

/-- An entry as a record with a single span. -/
def record (e : Entry) : Json :=
  .object (Members.ofPairs [
    ("reason", .string "compiler-message"),
    ("message", .object (Members.ofPairs [
      ("level", .string e.severity.label),
      ("message", .string e.message),
      ("spans", .array [.object (Members.ofPairs [
        ("file_name", .string e.fileName),
        ("line_start", .string e.lineStart)])])]))])

/-- The line of a stream that holds the record of an entry. -/
def recordLine (e : Entry) : String :=
  compact e.record ++ "\n"

theorem ofRecord_record (e : Entry) : ofRecord e.record = .ok e := by
  simp [ofRecord, record, field?, Members.ofPairs, Members.find?_insert,
    compilerMessage, Json.text?, Json.items?, firstSpan?, fieldText, asText]

theorem plain_ofPairs {depth : Nat} {pairs : List (String × Json)}
    (h : ∀ pair ∈ pairs, Plain depth pair.2) :
    Plain (depth + 1) (.object (Members.ofPairs pairs)) :=
  .object (fun m hm => h m (Members.mem_of_mem_ofPairs hm)) (Members.ascending_ofPairs pairs)

theorem plain_record (depth : Nat) (e : Entry) : Plain (depth + 4) e.record := by
  have hspan : Plain (depth + 1) (.object (Members.ofPairs [
      ("file_name", .string e.fileName), ("line_start", .string e.lineStart)])) := by
    apply plain_ofPairs
    simp only [List.forall_mem_cons]
    exact ⟨.string _, .string _, by simp⟩
  apply plain_ofPairs
  simp only [List.forall_mem_cons]
  refine ⟨.string _, plain_ofPairs ?_, by simp⟩
  simp only [List.forall_mem_cons]
  refine ⟨.string _, .string _, .array ?_, by simp⟩
  simp only [List.forall_mem_cons]
  exact ⟨hspan, by simp⟩

theorem parse_compact_record (e : Entry) : parse (compact e.record) = .ok e.record :=
  parse_compact (plain_record 123 e)

/-! ## Lines -/

/-- Text between two characters that are no blanks is trimmed of a line feed only. -/
theorem trimChars_lineFeed {first last : Char} (hfirst : Text.isBlank first = false)
    (hlast : Text.isBlank last = false) (mid : List Char) :
    Text.trimChars (first :: mid ++ [last] ++ ['\n']) = first :: mid ++ [last] := by
  have hfeed : Text.isBlank '\n' = true := by
    decide
  simp [Text.trimChars, hfirst, hlast, hfeed]

theorem exists_compactMembers (pairs : List (String × Json)) :
    ∃ front, compactMembers pairs = front ++ ['\x7d'] := by
  induction pairs with
  | nil => exact ⟨[], by rw [compactMembers, List.nil_append]⟩
  | cons pair pairs ih =>
    obtain ⟨key, held⟩ := pair
    obtain ⟨front, hfront⟩ := ih
    refine ⟨',' :: quotedText key ++ ':' :: compactChars held ++ front, ?_⟩
    rw [compactMembers, hfront]
    simp

/-- The text of an object stands between braces. -/
theorem exists_compactChars_object (members : List (String × Json)) :
    ∃ inside, compactChars (.object members) = '\x7b' :: inside ++ ['\x7d'] := by
  cases members with
  | nil => exact ⟨[], by rw [compactChars]; rfl⟩
  | cons pair pairs =>
    obtain ⟨key, held⟩ := pair
    obtain ⟨front, hfront⟩ := exists_compactMembers pairs
    refine ⟨quotedText key ++ ':' :: compactChars held ++ front, ?_⟩
    rw [compactChars, hfront]
    simp

theorem trim_object (members : List (String × Json)) :
    Text.trim (compact (.object members) ++ "\n") = compact (.object members) := by
  obtain ⟨inside, hinside⟩ := exists_compactChars_object members
  have htrim := trimChars_lineFeed (by decide : Text.isBlank '\x7b' = false)
    (by decide : Text.isBlank '\x7d' = false) inside
  rw [Text.trim, String.toList_append, compact, String.toList_ofList, hinside]
  exact congrArg String.ofList htrim

theorem compact_object_ne_empty (members : List (String × Json)) :
    compact (.object members) ≠ "" := by
  obtain ⟨inside, hinside⟩ := exists_compactChars_object members
  intro h
  have hchars := congrArg String.toList h
  rw [compact, String.toList_ofList, hinside] at hchars
  simp at hchars

/-- The line of a record gives its entry back. -/
theorem ofLine_recordLine (e : Entry) : ofLine e.recordLine = .ok e := by
  have htrim : Text.trim e.recordLine = compact e.record := trim_object _
  have hread : readRecord (compact e.record) = .ok e.record :=
    readRecord_eq_ok_iff.mpr (parse_compact_record e)
  simp only [ofLine, htrim, ofText, hread, ofRecord_record]
  exact if_neg (compact_object_ne_empty _)

/-! ## Streams -/

/-- The text of a record has no line feed in its bytes. -/
theorem lineFeed_notMem_encode_compact (v : Json) :
    Intake.lineFeed ∉ Utf8.encode (compact v) := by
  intro hmem
  obtain ⟨c, hc, hfeed⟩ := Utf8.mem_encode_ascii (by decide) hmem
  rw [compact, String.toList_ofList] at hc
  have hvisible := visible_compactChars v c hc
  rw [hfeed] at hvisible
  revert hvisible
  decide

theorem encode_recordLine (e : Entry) :
    Utf8.encode e.recordLine = Utf8.encode (compact e.record) ++ [Intake.lineFeed] := by
  rw [recordLine, Utf8.encode_append]
  rfl

theorem closed_recordLine (e : Entry) : Intake.Closed (Utf8.encode e.recordLine) := by
  rw [encode_recordLine]
  exact Intake.closed_line _

theorem linesOf_recordLine (e : Entry) :
    Intake.linesOf (Utf8.encode e.recordLine) = [Utf8.encode e.recordLine] := by
  rw [encode_recordLine]
  exact Intake.linesOf_single (lineFeed_notMem_encode_compact _) _

/-- The lines of a stream of records are the lines that it was put together from. -/
theorem linesOf_recordLines (entries : List Entry) :
    Intake.linesOf (entries.flatMap fun e => Utf8.encode e.recordLine) =
      entries.map fun e => Utf8.encode e.recordLine := by
  have hopen : ∀ line ∈ entries.map fun e => Utf8.encode (compact e.record),
      Intake.lineFeed ∉ line := by
    simp [lineFeed_notMem_encode_compact]
  have hlines := Intake.linesOf_flatMap hopen
  rw [List.flatMap_map, List.map_map] at hlines
  simp only [encode_recordLine]
  exact hlines

theorem ofBytes?_recordLine (e : Entry) : ofBytes? (Utf8.encode e.recordLine) = some e :=
  ofBytes?_eq_some_iff.mpr ⟨_, rfl, ofLine_recordLine e⟩

theorem filterMap_recordLines (entries : List Entry) :
    (entries.map fun e => Utf8.encode e.recordLine).filterMap ofBytes? = entries := by
  induction entries with
  | nil => rfl
  | cons e entries ih => rw [List.map_cons, List.filterMap_cons_some e.ofBytes?_recordLine, ih]

/-- A stream of records gives the entries that were written as them. -/
theorem entriesOf_recordLines (entries : List Entry) :
    Intake.entriesOf (entries.flatMap fun e => Utf8.encode e.recordLine) = entries := by
  rw [Intake.entriesOf, linesOf_recordLines, filterMap_recordLines]

theorem entriesOf_recordLine (e : Entry) : Intake.entriesOf (Utf8.encode e.recordLine) = [e] := by
  rw [Intake.entriesOf, linesOf_recordLine, List.filterMap_cons_some e.ofBytes?_recordLine,
    List.filterMap_nil]

end Entry

/-- Entries that are written as records, a line each, come back unchanged, whatever their texts hold:
each from its line, and all of them from a stream of the lines, which counts as many lines as there
are entries. -/
theorem collect_records (entries : List Entry) :
    (∀ e ∈ entries, Entry.ofLine (Json.compact e.record ++ "\n") = .ok e) ∧
    ∀ source : Source, source.Unfailing →
      source.bytes = entries.flatMap (fun e => Utf8.encode (Json.compact e.record ++ "\n")) →
      (∀ d, ∃ c, collect d source = (c, none) ∧ c.lines = entries.length) ∧
        Digest.ofSource source = .ok (Digest.ofEntries entries) := by
  refine ⟨fun e _ => Entry.ofLine_recordLine e, ?_⟩
  intro source hsource hbytes
  have hlines : Intake.linesOf source.bytes =
      entries.map fun e => Utf8.encode e.recordLine := by
    rw [hbytes]
    exact Entry.linesOf_recordLines entries
  constructor
  · intro d
    refine ⟨_, collect_unfailing hsource d, ?_⟩
    rw [Collection.lines_addLines, hlines, List.length_map, Collection.start, Nat.zero_add]
  · rw [Digest.ofSource_unfailing hsource, Intake.entriesOf, hlines, Entry.filterMap_recordLines]

/-- Line feeds, quotes, separators and blanks in entries do not break their records up: a stream of two
of them is cut between them and nowhere else. -/
theorem collect_records_line_feed :
    ∃ entries : List Entry, entries =
        [⟨.error, "a|b.rs", " 1 ", "m\n\n"⟩, ⟨.warning, "\n.rs", "2", "quoted \"\n\" \t"⟩] ∧
      ∃ source : Source, source.Unfailing ∧
        source.bytes = entries.flatMap (fun e => Utf8.encode (Json.compact e.record ++ "\n")) ∧
        (∃ c, collect Digest.empty source = (c, none) ∧ c.lines = 2) ∧
        Digest.ofSource source = .ok (Digest.ofEntries entries) := by
  obtain ⟨entries, hentries⟩ : ∃ entries : List Entry, entries =
      [⟨.error, "a|b.rs", " 1 ", "m\n\n"⟩, ⟨.warning, "\n.rs", "2", "quoted \"\n\" \t"⟩] :=
    ⟨_, rfl⟩
  have hread := Source.unfailing_whole
    (entries.flatMap fun e => Utf8.encode (Json.compact e.record ++ "\n"))
  have hbytes := Source.bytes_whole
    (entries.flatMap fun e => Utf8.encode (Json.compact e.record ++ "\n"))
  obtain ⟨hcollect, hdigest⟩ := (collect_records entries).2 _ hread hbytes
  obtain ⟨c, hc, hlines⟩ := hcollect Digest.empty
  refine ⟨entries, hentries, _, hread, hbytes, ⟨c, hc, ?_⟩, hdigest⟩
  rw [hlines, hentries]
  rfl

end DiagnosticDigest
