import DiagnosticDigest.Proofs.Collection.Reading
import Mathlib.Data.List.Sort

/-!
# Digests by their lines

A digest is known by the lines it holds under each severity. Taking in entries adds their lines, so
neither the order of the entries nor their repetition can be seen in a digest.

## Main definitions

* `Intake.entriesOf` — the entries that the lines of a stream give.
-/

namespace DiagnosticDigest

/-! ## Lines of entries -/

/-- The line of an entry begins with the name of its severity. -/
theorem Entry.exists_line_eq (e : Entry) : ∃ rest, e.line = e.severity.label ++ "|" ++ rest :=
  ⟨e.fileName ++ ":" ++ e.lineStart ++ "|" ++ e.message, by simp [line, String.append_assoc]⟩

/-! ## Lines determine digests -/

/-- Sets that hold the same lines are equal, since each line stands once and in its place. -/
theorem LineSet.ext_mem {a b : LineSet} (h : ∀ line, line ∈ a ↔ line ∈ b) : a = b := by
  have hirrefl : Std.Irrefl Utf8.Before := ⟨Utf8.Before.irrefl⟩
  have hantisymm : Std.Antisymm Utf8.Before :=
    ⟨fun x y hxy hyx => absurd (hxy.trans hyx) (Utf8.Before.irrefl x)⟩
  exact LineSet.ext (a.ascending.eq_of_mem_iff b.ascending h)

/-- Digests that hold the same lines under each severity are equal. -/
theorem Digest.ext_mem {a b : Digest}
    (h : ∀ severity line, line ∈ a.linesOf severity ↔ line ∈ b.linesOf severity) : a = b :=
  Digest.ext (LineSet.ext_mem (h .error)) (LineSet.ext_mem (h .warning))

/-! ## Sizes -/

theorem LineSet.length_place {line : String} {lines : List String} (h : line ∉ lines) :
    (place line lines).length = lines.length + 1 := by
  induction lines with
  | nil => rfl
  | cons first rest ih =>
    simp only [List.mem_cons, not_or] at h
    rw [place, if_neg h.1]
    split
    · rfl
    · rw [List.length_cons, ih h.2, List.length_cons]

theorem LineSet.size_insert {s : LineSet} {line : String} (h : line ∉ s) :
    (s.insert line).size = s.size + 1 :=
  length_place h

/-- Taking in an entry makes a digest larger by one line if the entry is new, and else not at all. -/
theorem Digest.size_insert (d : Digest) (e : Entry) :
    (d.insert e).size = d.size + if d.isNew e then 1 else 0 := by
  cases hnew : d.isNew e
  · simp [insert_of_not_isNew hnew]
  · have hnot : e.line ∉ d.linesOf e.severity := by simpa [isNew] using hnew
    rw [if_pos rfl, insert]
    cases hseverity : e.severity with
    | error =>
      rw [hseverity] at hnot
      have hsize : (d.errors.insert e.line).size = d.errors.size + 1 := LineSet.size_insert hnot
      simp only [insertLine, size, hsize]
      omega
    | warning =>
      rw [hseverity] at hnot
      have hsize : (d.warnings.insert e.line).size = d.warnings.size + 1 :=
        LineSet.size_insert hnot
      simp only [insertLine, size, hsize]
      omega

/-- Entries whose lines are all there already change nothing. -/
theorem Digest.insertAll_of_not_isNew {d : Digest} {entries : List Entry}
    (h : ∀ e ∈ entries, d.isNew e = false) : d.insertAll entries = d := by
  induction entries with
  | nil => rfl
  | cons e entries ih =>
    rw [List.forall_mem_cons] at h
    rw [insertAll_cons, insert_of_not_isNew h.1, ih h.2]

/-- Entries are not new once they have been taken in. -/
theorem Digest.not_isNew_insertAll {d : Digest} {entries : List Entry} {e : Entry}
    (h : e ∈ entries) : (d.insertAll entries).isNew e = false := by
  have hmem : e.line ∈ (d.insertAll entries).linesOf e.severity :=
    mem_linesOf_insertAll.mpr (.inr ⟨e, h, rfl, rfl⟩)
  simpa [isNew] using hmem

/-! ## Entries of a stream -/

/-- The entries that the lines of a stream give, in the order of the lines. -/
def Intake.entriesOf (bytes : List UInt8) : List Entry :=
  (linesOf bytes).filterMap Entry.ofBytes?

namespace Intake

theorem mem_entriesOf {bytes : List UInt8} {e : Entry} :
    e ∈ entriesOf bytes ↔
      ∃ text, Utf8.encode text ∈ linesOf bytes ∧ Entry.ofLine text = .ok e := by
  rw [entriesOf, List.mem_filterMap]
  constructor
  · rintro ⟨line, hline, he⟩
    obtain ⟨text, rfl, htext⟩ := Entry.ofBytes?_eq_some_iff.mp he
    exact ⟨text, hline, htext⟩
  · rintro ⟨text, hline, htext⟩
    exact ⟨_, hline, Entry.ofBytes?_eq_some_iff.mpr ⟨text, rfl, htext⟩⟩

theorem exists_mem_entriesOf_iff {bytes : List UInt8} {p : Entry → Prop} :
    (∃ e ∈ entriesOf bytes, p e) ↔
      ∃ text e, Utf8.encode text ∈ linesOf bytes ∧ Entry.ofLine text = .ok e ∧ p e := by
  simp only [mem_entriesOf]
  constructor
  · rintro ⟨e, ⟨text, hline, htext⟩, h⟩
    exact ⟨text, e, hline, htext, h⟩
  · rintro ⟨text, e, hline, htext, h⟩
    exact ⟨e, ⟨text, hline, htext⟩, h⟩

theorem entriesOf_nil : entriesOf [] = [] := rfl

/-- Closed bytes give their entries by themselves, whatever follows them. -/
theorem entriesOf_append {bytes : List UInt8} (h : Closed bytes) (rest : List UInt8) :
    entriesOf (bytes ++ rest) = entriesOf bytes ++ entriesOf rest := by
  rw [entriesOf, linesOf_append h, List.filterMap_append]
  rfl

/-- Streams of which all but the last are closed give the entries of what they are put together
to. -/
theorem entriesOf_flatten {parts : List (List UInt8)} (h : ∀ part ∈ parts.dropLast, Closed part) :
    entriesOf parts.flatten = parts.flatMap entriesOf := by
  induction parts with
  | nil => rfl
  | cons first others ih =>
    cases others with
    | nil => simp
    | cons second others =>
      rw [List.dropLast_cons_cons, List.forall_mem_cons] at h
      rw [List.flatten_cons, entriesOf_append h.1, ih h.2, ← List.flatMap_cons]

end Intake

/-! ## Digests of streams -/

theorem Digest.mem_linesOf_ofEntries {entries : List Entry} {severity : Severity} {line : String} :
    line ∈ (ofEntries entries).linesOf severity ↔
      ∃ e ∈ entries, e.severity = severity ∧ e.line = line := by
  simp [ofEntries, mem_linesOf_insertAll]

/-- Every line that a digest of entries holds begins with the name of its severity. -/
theorem Digest.exists_eq_of_mem_ofEntries {entries : List Entry} {severity : Severity}
    {line : String} (h : line ∈ (ofEntries entries).linesOf severity) :
    ∃ rest, line = severity.label ++ "|" ++ rest := by
  obtain ⟨e, -, rfl, rfl⟩ := mem_linesOf_ofEntries.mp h
  exact e.exists_line_eq

/-- Neither order nor repetition of entries shows in their digest. -/
theorem Digest.ofEntries_congr {a b : List Entry} (h : ∀ e, e ∈ a ↔ e ∈ b) :
    ofEntries a = ofEntries b := by
  apply ext_mem
  intro severity line
  simp only [mem_linesOf_ofEntries, h]

/-- Collecting a stream takes in its entries. -/
theorem digest_of_collect {d : Digest} {source : Source} {c : Collection} (h : source.Unfailing)
    (hcollect : collect d source = (c, none)) :
    c.digest = d.insertAll (Intake.entriesOf source.bytes) := by
  rw [collect_unfailing h] at hcollect
  rw [← (Prod.mk.inj hcollect).1, Collection.digest_addLines]
  rfl

/-- A stream that is read to its end gives the digest of its entries. -/
theorem Digest.ofSource_unfailing {source : Source} (h : source.Unfailing) :
    ofSource source = .ok (ofEntries (Intake.entriesOf source.bytes)) := by
  rw [ofSource, collect_unfailing h]
  simp only [Collection.digest_addLines]
  rfl

end DiagnosticDigest
