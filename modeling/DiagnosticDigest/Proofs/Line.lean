import DiagnosticDigest.Proofs.Digest.History
import DiagnosticDigest.Proofs.Extraction
import Mathlib.Data.List.Basic

/-!
# Entries behind their lines

Nothing is escaped in the line of an entry, so in general its parts cannot be found in it. They can if
neither file name nor line has a bar and the line has no colon: then the first bar stands behind the
severity, the second one behind the place, and the last colon of the place between file name and line.
So a digest, which keeps each line once, keeps apart what differs in any of its parts.

## Main definitions

* `Entry.Placed` — entries whose parts can be found in their lines.
* `Entry.NumberedLine` — records whose first span has a whole number for its line, or none.
-/

namespace DiagnosticDigest

/-! ## Cutting at a separator -/

variable {α : Type}

/-- Where a list is cut at its first separator, both parts are known. -/
theorem append_cons_inj_of_first {x : α} {a b c d : List α} (ha : x ∉ a) (hc : x ∉ c) :
    a ++ x :: b = c ++ x :: d ↔ a = c ∧ b = d := by
  constructor
  · intro h
    rcases List.append_eq_append_iff.mp h with ⟨mid, rfl, hmid⟩ | ⟨mid, rfl, hmid⟩
    · cases mid with
      | nil => simpa using hmid
      | cons y mid =>
        obtain ⟨rfl, -⟩ := List.cons.inj hmid
        simp at hc
    · cases mid with
      | nil => simpa [eq_comm] using hmid
      | cons y mid =>
        obtain ⟨rfl, -⟩ := List.cons.inj hmid
        simp at ha
  · rintro ⟨rfl, rfl⟩
    rfl

/-- Where a list is cut at its last separator, both parts are known. -/
theorem append_cons_inj_of_last {x : α} {a b c d : List α} (hb : x ∉ b) (hd : x ∉ d) :
    a ++ x :: b = c ++ x :: d ↔ a = c ∧ b = d := by
  have hreverse : ∀ front back : List α,
      (front ++ x :: back).reverse = back.reverse ++ x :: front.reverse := by
    simp
  rw [← List.reverse_inj, hreverse, hreverse,
    append_cons_inj_of_first (by simpa using hb) (by simpa using hd), List.reverse_inj,
    List.reverse_inj, and_comm]

/-! ## Lines -/

theorem Severity.label_injective {a b : Severity} (h : a.label = b.label) : a = b := by
  have hread := ofLabel?_label a
  rw [h, ofLabel?_label] at hread
  exact (Option.some.inj hread).symm

theorem Severity.bar_notMem_label (severity : Severity) : '|' ∉ severity.label.toList := by
  cases severity <;> decide

namespace Entry

/-- Entries whose parts can be found in their lines: no bar stands in the file name, and neither bar
nor colon in the line. The message may be anything. -/
structure Placed (e : Entry) : Prop where
  fileName : '|' ∉ e.fileName.toList
  lineStart : '|' ∉ e.lineStart.toList
  colon : ':' ∉ e.lineStart.toList

/-- The characters of a line: severity, place and message between bars, and the place around a
colon. -/
theorem toList_line (e : Entry) :
    e.line.toList = e.severity.label.toList ++
      '|' :: ((e.fileName.toList ++ ':' :: e.lineStart.toList) ++ '|' :: e.message.toList) := by
  simp [line]

theorem Placed.bar_notMem_place {e : Entry} (h : e.Placed) :
    '|' ∉ e.fileName.toList ++ ':' :: e.lineStart.toList := by
  simp [h.fileName, h.lineStart]

/-- Entries whose parts can be found in their lines have the same line only if all parts are the
same. -/
theorem Placed.line_eq_iff {a b : Entry} (ha : a.Placed) (hb : b.Placed) :
    a.line = b.line ↔ a = b := by
  constructor
  · intro h
    have hchars := congrArg String.toList h
    rw [toList_line, toList_line, append_cons_inj_of_first a.severity.bar_notMem_label
      b.severity.bar_notMem_label] at hchars
    obtain ⟨hlabel, hrest⟩ := hchars
    obtain ⟨hplace, hmessage⟩ :=
      (append_cons_inj_of_first ha.bar_notMem_place hb.bar_notMem_place).mp hrest
    obtain ⟨hfile, hline⟩ := (append_cons_inj_of_last ha.colon hb.colon).mp hplace
    cases a
    cases b
    simp only [String.toList_inj] at hlabel hfile hline hmessage
    rw [Severity.label_injective hlabel, hfile, hline, hmessage]
  · exact congrArg line

/-! ## Records with numbered lines -/

/-- The first span of a record has a whole number for its line, or no line. -/
def NumberedLine (record : Json) : Prop :=
  ∀ span, firstSpan? (messageOf record) = some span →
    span.field? "line_start" = none ∨
      ∃ z, span.field? "line_start" = some (.number (.integer z))

end Entry

/-- A whole number is written with digits and a minus sign. -/
theorem Decimal.notMem_writeInteger {c : Char} (hdigit : c.isDigit = false) (hminus : c ≠ '-')
    (z : Int) : c ∉ writeInteger z := by
  have hdigits : c ∉ digitChars z.natAbs := by
    intro hc
    rw [Nat.isDigit_of_mem_toDigits (by decide) (by decide) hc] at hdigit
    contradiction
  rw [writeInteger]
  split
  · simp [hminus, hdigits]
  · exact hdigits

namespace Entry

theorem notMem_fieldText_of_integer {span : Json} {c : Char} (hdigit : c.isDigit = false)
    (hminus : c ≠ '-')
    (h : span.field? "line_start" = none ∨
      ∃ z, span.field? "line_start" = some (.number (.integer z))) :
    c ∉ (fieldText span "line_start" "0").toList := by
  rcases h with h | ⟨z, h⟩
  · rw [fieldText, h]
    rintro hc
    obtain rfl : c = '0' := by simpa using hc
    contradiction
  · simpa [fieldText, h, Json.asText, Json.compact, Json.compactChars, Json.numberText] using
      Decimal.notMem_writeInteger hdigit hminus z

/-- The entry of a record with a numbered line can be found in its line, unless the file name has a
bar. -/
theorem placed_of_numberedLine {record : Json} {e : Entry} (h : ofRecord record = .ok e)
    (hnumbered : NumberedLine record) (hfile : '|' ∉ e.fileName.toList) : e.Placed := by
  obtain ⟨message, span, hqualifies, -, hline, -⟩ := ofRecord_eq_ok_iff.mp h
  have hspan := hnumbered span hqualifies.firstSpan?_eq
  refine ⟨hfile, ?_, ?_⟩
  · rw [hline]
    exact notMem_fieldText_of_integer (by decide) (by decide) hspan
  · rw [hline]
    exact notMem_fieldText_of_integer (by decide) (by decide) hspan

end Entry

/-! ## Digests -/

/-- Of two new entries a digest keeps two lines exactly if their lines differ. -/
theorem Digest.size_insert_insert {d : Digest} {a b : Entry} (ha : d.isNew a = true)
    (hb : d.isNew b = true) :
    ((d.insert a).insert b).size = d.size + 2 ↔ a.line ≠ b.line := by
  have hnew : (d.insert a).isNew b = true ↔ a.line ≠ b.line := by
    have hnot : b.line ∉ d.linesOf b.severity := by simpa [isNew] using hb
    rw [isNew, decide_eq_true_iff, mem_linesOf_insert, not_or]
    constructor
    · rintro ⟨hne, -⟩ hline
      exact hne ⟨(Entry.severity_eq_of_line_eq hline).symm, hline.symm⟩
    · intro hne
      exact ⟨fun h => hne h.2.symm, hnot⟩
  rw [← hnew, size_insert, size_insert, if_pos ha]
  split <;> simp_all

/-- Entries whose file names have no bar, and whose lines neither bar nor colon, have the same line
exactly if they are equal. Such are the entries of records whose first spans have a whole number for
their line, or no line, and whose file names have no bar; so any digest to which two of them are new
keeps two lines of them exactly if they differ. -/
theorem Entry.line_tells_entries_apart :
    (∀ a b : Entry, a.Placed → b.Placed → (a.line = b.line ↔ a = b)) ∧
    ∀ record other a b, Entry.ofRecord record = .ok a → Entry.ofRecord other = .ok b →
      NumberedLine record → NumberedLine other →
      '|' ∉ a.fileName.toList → '|' ∉ b.fileName.toList →
        (((Digest.empty.insert a).insert b).size = 2 ↔ a ≠ b) ∧
        ∀ d : Digest, d.isNew a = true → d.isNew b = true →
          (((d.insert a).insert b).size = d.size + 2 ↔ a ≠ b) := by
  refine ⟨fun a b ha hb => ha.line_eq_iff hb, ?_⟩
  intro record other a b ha hb hrecord hother hfile hfile'
  have hline := (placed_of_numberedLine ha hrecord hfile).line_eq_iff
    (placed_of_numberedLine hb hother hfile')
  have hsize : ∀ d : Digest, d.isNew a = true → d.isNew b = true →
      (((d.insert a).insert b).size = d.size + 2 ↔ a ≠ b) := by
    intro d hnew hnew'
    rw [Digest.size_insert_insert hnew hnew', ne_eq, hline]
  exact ⟨hsize Digest.empty (by simp [Digest.isNew]) (by simp [Digest.isNew]), hsize⟩

/-- Without a line the place ends with a zero behind the colon, so a file name that ends that way itself
is kept apart from one that does not. -/
theorem Entry.line_tells_entries_apart_colon :
    (((Digest.empty.insert ⟨.error, "a:0", "0", "m"⟩).insert ⟨.error, "a", "0", "m"⟩).size = 2) ∧
      Entry.line ⟨.error, "a:0", "0", "|m"⟩ ≠ Entry.line ⟨.error, "a", "0", "|m"⟩ := by
  have hplaced : ∀ file ∈ ["a:0", "a"], Entry.Placed ⟨.error, file, "0", "|m"⟩ := by
    simp only [List.forall_mem_cons]
    exact ⟨⟨by decide, by decide, by decide⟩, ⟨by decide, by decide, by decide⟩, by simp⟩
  have hrecord : ∀ file ∈ ["a:0", "a"], Entry.ofRecord (.object [("message", .object
      [("level", .string "error"), ("message", .string "m"),
        ("spans", .array [.object [("file_name", .string file)]])]),
      ("reason", .string "compiler-message")]) = .ok ⟨.error, file, "0", "m"⟩ := by
    simp only [List.forall_mem_cons]
    exact ⟨rfl, rfl, by simp⟩
  have hnumbered : ∀ file ∈ ["a:0", "a"], Entry.NumberedLine (.object [("message", .object
      [("level", .string "error"), ("message", .string "m"),
        ("spans", .array [.object [("file_name", .string file)]])]),
      ("reason", .string "compiler-message")]) := by
    rintro file - span hspan
    obtain rfl := Option.some.inj hspan
    exact .inl rfl
  obtain ⟨hlines, hdigests⟩ := line_tells_entries_apart
  refine ⟨(hdigests _ _ _ _ (hrecord "a:0" (by simp)) (hrecord "a" (by simp))
    (hnumbered "a:0" (by simp)) (hnumbered "a" (by simp)) (by decide) (by decide)).1.mpr
      (by simp), ?_⟩
  rw [ne_eq, hlines _ _ (hplaced "a:0" (by simp)) (hplaced "a" (by simp))]
  simp

end DiagnosticDigest
