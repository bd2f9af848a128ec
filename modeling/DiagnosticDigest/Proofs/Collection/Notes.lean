import DiagnosticDigest.Proofs.Digest
import DiagnosticDigest.Proofs.Records
import Mathlib.Data.List.ReduceOption

/-!
# Every line is accounted for

While a stream is read, every line leaves at most one note, and the notes stand in the order of the
lines. A line passes without a note exactly if it is blank, holds a record that is no diagnostic, or
adds a line to the digest. So the lines that give entries are those that make the digest larger and
those that are noted as duplicates, and read a second time they are all duplicates.

## Main definitions

* `Entry.NoDiagnostic` — records that pass without an entry and without a note.
* `Note.repeated` — the entries that notes call duplicates.
* `Collection.remark?`, `Collection.remarks` — the note on a line, and those on all of them.
-/

namespace DiagnosticDigest

/-- A record that is no diagnostic: its reason is another one, or its message has no level. -/
def Entry.NoDiagnostic (record : Json) : Prop :=
  (record.field? "reason").bind Json.text? ≠ some "compiler-message" ∨
    (((record.field? "message").getD .null).field? "level").bind Json.text? = none

/-- The entry that a note calls a duplicate. -/
def Note.repeated? : Note → Option Entry
  | .duplicate e => some e
  | _ => none

/-- The entries that notes call duplicates, in order. -/
def Note.repeated (notes : List Note) : List Entry :=
  notes.filterMap Note.repeated?

theorem Note.repeated_append (a b : List Note) : repeated (a ++ b) = repeated a ++ repeated b :=
  List.filterMap_append

/-! ## Dismissals without a note -/

namespace Dismissal

theorem level_note? {dismissal : Dismissal} {line : Nat} {note : Note}
    (h : dismissal.note? line = some note) : note.level = .trace := by
  cases dismissal <;> simp only [note?, Option.some.injEq, reduceCtorEq] at h <;> subst h <;> rfl

theorem repeated_note? (dismissal : Dismissal) (line : Nat) :
    Note.repeated (dismissal.note? line).toList = [] := by
  cases dismissal <;> rfl

theorem number_of_note? {dismissal : Dismissal} {line number : Nat} {fault : Utf8.Fault}
    (h : dismissal.note? line = some (.undecodable number fault)) : number = line := by
  cases dismissal <;> simp [note?] at h
  exact h.1.symm

end Dismissal

namespace Entry

theorem ofBytes_encode (text : String) : ofBytes (Utf8.encode text) = ofLine text := by
  rw [ofBytes, Utf8.decode_eq_ok_iff.mpr rfl]

/-- A record is dismissed without a note exactly if it is no diagnostic. -/
theorem ofRecord_silent_iff {record : Json} (line : Nat) :
    (∃ dismissal, ofRecord record = .error dismissal ∧ dismissal.note? line = none) ↔
      NoDiagnostic record := by
  rw [NoDiagnostic, ofRecord, compilerMessage]
  by_cases hreason : (record.field? "reason").bind Json.text? = some "compiler-message"
  · rw [if_neg (not_not.mpr hreason)]
    dsimp only
    generalize (record.field? "message").getD .null = message
    cases hlevel : (message.field? "level").bind Json.text? with
    | none => exact ⟨fun _ => .inr rfl, fun _ => ⟨_, rfl, rfl⟩⟩
    | some level =>
      -- a level that is a text is noted, or the record gives an entry
      dsimp only
      cases hseverity : Severity.ofLabel? level with
      | none => simp [hreason, Dismissal.note?]
      | some severity =>
        dsimp only
        cases firstSpan? message <;> simp [hreason, Dismissal.note?]
  · rw [if_pos hreason]
    exact ⟨fun _ => .inl hreason, fun _ => ⟨_, rfl, rfl⟩⟩

/-- Why a record gives no entry: its reason, its level or its spans. -/
theorem dismissal_of_ofRecord {record : Json} {dismissal : Dismissal}
    (h : ofRecord record = .error dismissal) :
    dismissal = .otherReason ∨ dismissal = .levelless ∨ (∃ level, dismissal = .unknownLevel level) ∨
      ∃ severity, dismissal = .spanless severity := by
  rw [ofRecord] at h
  split at h
  · exact .inl (Except.error.inj h).symm
  dsimp only at h
  split at h
  · exact .inr (.inl (Except.error.inj h).symm)
  split at h
  · exact .inr (.inr (.inl ⟨_, (Except.error.inj h).symm⟩))
  split at h
  · exact .inr (.inr (.inr ⟨_, (Except.error.inj h).symm⟩))
  · simp at h

/-- A line is dismissed without a note exactly if it is blank or holds a record that is no
diagnostic. -/
theorem ofLine_silent_iff {line : String} (number : Nat) :
    (∃ dismissal, ofLine line = .error dismissal ∧ dismissal.note? number = none) ↔
      Text.trim line = "" ∨
        ∃ record, readRecord (Text.trim line) = .ok record ∧ NoDiagnostic record := by
  rw [ofLine]
  generalize Text.trim line = text
  by_cases hblank : text = ""
  · simp [hblank, Dismissal.note?]
  · simp only [hblank, if_false, false_or, ofText]
    rw [readRecord]
    cases Json.parse text with
    | error fault => simp [Dismissal.note?]
    | ok record => simp [ofRecord_silent_iff]

end Entry

namespace Collection

/-! ## One line -/

/-- What is noted on a line when it is taken in: why it is dismissed, or that its entry is there
already. -/
def remark? (c : Collection) (bytes : List UInt8) : Option Note :=
  match Entry.ofBytes bytes with
  | .error dismissal => dismissal.note? (c.lines + 1)
  | .ok e => if c.digest.isNew e then none else some (.duplicate e)

theorem notes_addLine (c : Collection) (bytes : List UInt8) :
    (c.addLine bytes).notes = c.notes ++ (c.remark? bytes).toList := by
  rw [addLine, remark?]
  cases Entry.ofBytes bytes with
  | error dismissal => rfl
  | ok e => cases h : c.digest.isNew e <;> simp [h]

theorem level_remark? {c : Collection} {bytes : List UInt8} {note : Note}
    (h : c.remark? bytes = some note) : note.level = .trace := by
  rw [remark?] at h
  cases hbytes : Entry.ofBytes bytes with
  | error dismissal =>
    rw [hbytes] at h
    exact Dismissal.level_note? h
  | ok e =>
    cases hnew : c.digest.isNew e <;> simp [hbytes, hnew] at h
    subst h
    rfl

/-- A note that a line is no text carries the number of the line. -/
theorem number_of_remark? {c : Collection} {bytes : List UInt8} {number : Nat}
    {fault : Utf8.Fault} (h : c.remark? bytes = some (.undecodable number fault)) :
    number = c.lines + 1 := by
  rw [remark?] at h
  cases hbytes : Entry.ofBytes bytes with
  | error dismissal =>
    rw [hbytes] at h
    exact Dismissal.number_of_note? h
  | ok e => cases hnew : c.digest.isNew e <;> simp [hbytes, hnew] at h

/-- A line that gives an entry makes the digest larger, or it is noted as a duplicate. -/
theorem growth_addLine (c : Collection) (bytes : List UInt8) :
    ∃ grown, (c.addLine bytes).digest.size = c.digest.size + grown ∧
      (Entry.ofBytes? bytes).toList.length =
        grown + (Note.repeated (c.remark? bytes).toList).length := by
  rw [digest_addLine, Entry.ofBytes?, remark?]
  cases Entry.ofBytes bytes with
  | error dismissal => exact ⟨0, rfl, by simp [Except.toOption, Dismissal.repeated_note?]⟩
  | ok e =>
    refine ⟨if c.digest.isNew e then 1 else 0, c.digest.size_insert e, ?_⟩
    cases hnew : c.digest.isNew e <;>
      simp [Except.toOption, hnew, Note.repeated, Note.repeated?]

/-- A line passes without a note exactly if it is dismissed without one or adds a line to the
digest. -/
theorem remark?_eq_none_iff {c : Collection} {bytes : List UInt8} :
    c.remark? bytes = none ↔
      (∃ dismissal, Entry.ofBytes bytes = .error dismissal ∧
        dismissal.note? (c.lines + 1) = none) ∨
      (c.addLine bytes).digest.size = c.digest.size + 1 := by
  rw [digest_addLine, Entry.ofBytes?, remark?]
  cases Entry.ofBytes bytes with
  | error dismissal => simp [Except.toOption, Digest.insertAll]
  | ok e => cases hnew : c.digest.isNew e <;>
      simp [Except.toOption, Digest.insertAll, Digest.size_insert, hnew]

/-- A line passes without a note exactly if it is a text and is blank, holds a record that is no
diagnostic, or adds a line to the digest. -/
theorem remark?_eq_none_iff_text {c : Collection} {bytes : List UInt8} :
    c.remark? bytes = none ↔ ∃ text, Utf8.encode text = bytes ∧
      (Text.trim text = "" ∨
        (∃ record, Entry.readRecord (Text.trim text) = .ok record ∧ Entry.NoDiagnostic record) ∨
        (c.addLine bytes).digest.size = c.digest.size + 1) := by
  cases hdecode : Utf8.decode bytes with
  | error fault =>
    have hnot : ∀ text, Utf8.encode text ≠ bytes := by
      intro text htext
      rw [Utf8.decode_eq_ok_iff.mpr htext] at hdecode
      contradiction
    simp [remark?, Entry.ofBytes, hdecode, Dismissal.note?, hnot]
  | ok text =>
    obtain rfl := Utf8.decode_eq_ok_iff.mp hdecode
    rw [remark?_eq_none_iff, Entry.ofBytes_encode, Entry.ofLine_silent_iff, or_assoc]
    constructor
    · exact fun h => ⟨text, rfl, h⟩
    · rintro ⟨other, hother, h⟩
      rwa [Utf8.encode_injective hother] at h

theorem repeated_remark? {c : Collection} {bytes : List UInt8}
    (h : ∀ e ∈ (Entry.ofBytes? bytes).toList, c.digest.isNew e = false) :
    Note.repeated (c.remark? bytes).toList = (Entry.ofBytes? bytes).toList := by
  rw [Entry.ofBytes?, remark?] at *
  cases hbytes : Entry.ofBytes bytes with
  | error dismissal => exact dismissal.repeated_note? _
  | ok e =>
    have hknown : c.digest.isNew e = false := h e (by simp [hbytes, Except.toOption])
    simp [hknown, Note.repeated, Note.repeated?, Except.toOption]

/-! ## All lines -/

/-- Lines that give entries make the digest larger, or they are noted as duplicates. -/
theorem growth_addLines (c : Collection) (lines : List (List UInt8)) :
    ∃ grown, (c.addLines lines).digest.size = c.digest.size + grown ∧
      (lines.filterMap Entry.ofBytes?).length + (Note.repeated c.notes).length =
        grown + (Note.repeated (c.addLines lines).notes).length := by
  induction lines generalizing c with
  | nil => exact ⟨0, rfl, by simp [addLines]⟩
  | cons line lines ih =>
    obtain ⟨first, hfirst, hnoted⟩ := c.growth_addLine line
    obtain ⟨others, hothers, hall⟩ := ih (c.addLine line)
    rw [addLines_cons, Entry.filterMap_ofBytes?_cons, List.length_append]
    refine ⟨first + others, by omega, ?_⟩
    rw [notes_addLine, Note.repeated_append, List.length_append] at hall
    omega

/-- What is noted on each of the lines when they are taken in one after the other. -/
def remarks (c : Collection) : List (List UInt8) → List (Option Note)
  | [] => []
  | line :: lines => c.remark? line :: (c.addLine line).remarks lines

theorem length_remarks (c : Collection) (lines : List (List UInt8)) :
    (c.remarks lines).length = lines.length := by
  induction lines generalizing c with
  | nil => rfl
  | cons line lines ih => rw [remarks, List.length_cons, ih, List.length_cons]

theorem remarks_append (c : Collection) (before after : List (List UInt8)) :
    c.remarks (before ++ after) = c.remarks before ++ (c.addLines before).remarks after := by
  induction before generalizing c with
  | nil => rfl
  | cons line before ih =>
    rw [List.cons_append, remarks, ih, remarks, addLines_cons, List.cons_append]

theorem take_remarks (c : Collection) (before after : List (List UInt8)) :
    (c.remarks (before ++ after)).take before.length = c.remarks before := by
  rw [remarks_append]
  exact List.take_left' (c.length_remarks before)

theorem getElem?_remarks (c : Collection) (before : List (List UInt8)) (line : List UInt8)
    (after : List (List UInt8)) :
    (c.remarks (before ++ line :: after))[before.length]? =
      some ((c.addLines before).remark? line) := by
  rw [remarks_append, List.getElem?_append_right (c.length_remarks before).le, c.length_remarks,
    Nat.sub_self]
  rfl

/-- Nothing is noted on lines but the remarks on them. -/
theorem notes_addLines (c : Collection) (lines : List (List UInt8)) :
    (c.addLines lines).notes = c.notes ++ (c.remarks lines).reduceOption := by
  induction lines generalizing c with
  | nil => simp [addLines, remarks]
  | cons line lines ih =>
    have hcons : (c.remarks (line :: lines)).reduceOption =
        (c.remark? line).toList ++ ((c.addLine line).remarks lines).reduceOption := by
      rw [remarks]
      cases c.remark? line <;> simp
    rw [addLines_cons, ih, notes_addLine, hcons, List.append_assoc]

theorem notes_start_addLines (d : Digest) (lines : List (List UInt8)) :
    ((start d).addLines lines).notes = ((start d).remarks lines).reduceOption := by
  rw [notes_addLines, start, List.nil_append]

/-- A note that is not there yet is made on one of the lines. -/
theorem mem_notes_addLines_iff {c : Collection} {lines : List (List UInt8)} {note : Note} :
    note ∈ (c.addLines lines).notes ↔ note ∈ c.notes ∨
      ∃ before line after, lines = before ++ line :: after ∧
        (c.addLines before).remark? line = some note := by
  induction lines generalizing c with
  | nil => simp [addLines]
  | cons first lines ih =>
    rw [addLines_cons, ih, notes_addLine, List.mem_append, Option.mem_toList, or_assoc]
    apply or_congr_right
    constructor
    · rintro (hfirst | ⟨before, line, after, rfl, hline⟩)
      · exact ⟨[], first, lines, rfl, hfirst⟩
      · exact ⟨first :: before, line, after, rfl, hline⟩
    · rintro ⟨before, line, after, hlines, hline⟩
      cases before with
      | nil =>
        obtain ⟨rfl, -⟩ := List.cons.inj hlines
        exact .inl hline
      | cons _ before =>
        obtain ⟨rfl, rfl⟩ := List.cons.inj hlines
        exact .inr ⟨before, line, after, rfl, hline⟩

theorem level_addLines {c : Collection} {lines : List (List UInt8)} {note : Note}
    (h : note ∈ (c.addLines lines).notes) : note ∈ c.notes ∨ note.level = .trace := by
  rcases mem_notes_addLines_iff.mp h with hold | ⟨before, line, after, -, hline⟩
  · exact .inl hold
  · exact .inr (level_remark? hline)

/-- Lines whose entries are all there already are each noted as a duplicate. -/
theorem repeated_addLines {c : Collection} {lines : List (List UInt8)}
    (h : ∀ e ∈ lines.filterMap Entry.ofBytes?, c.digest.isNew e = false) :
    Note.repeated (c.addLines lines).notes =
      Note.repeated c.notes ++ lines.filterMap Entry.ofBytes? := by
  induction lines generalizing c with
  | nil => simp [addLines]
  | cons line lines ih =>
    rw [Entry.filterMap_ofBytes?_cons, List.forall_mem_append] at h
    have hdigest : (c.addLine line).digest = c.digest := by
      rw [digest_addLine, Digest.insertAll_of_not_isNew h.1]
    have hothers : ∀ e ∈ lines.filterMap Entry.ofBytes?,
        (c.addLine line).digest.isNew e = false := by
      rw [hdigest]
      exact h.2
    rw [addLines_cons, ih hothers, notes_addLine, Note.repeated_append, repeated_remark? h.1,
      Entry.filterMap_ofBytes?_cons, List.append_assoc]

end Collection

/-! ## Streams -/

/-- The first lines of a stream, read alone. -/
theorem collect_beginning {bytes : List UInt8} {before : List (List UInt8)}
    (h : before <+: Intake.linesOf bytes) (d : Digest) :
    collect d (Source.whole before.flatten) = ((Collection.start d).addLines before, none) := by
  rw [collect_unfailing (Source.unfailing_whole _), Source.bytes_whole, Intake.linesOf_flatten h]

/-- Reading a stream accounts for all its lines. On each of them there is one remark or none, and what
is noted are these remarks, in the order of the lines, and nothing else: at the end as behind any of
the lines. There is none exactly if the line is a text and is blank, holds a record that is no
diagnostic, or adds a line to the digest; and that it is no text is noted with its number. The lines
that give entries are as many as the digest has grown by and duplicates are noted. Read again, each of
them is noted as a duplicate, and the digest stays as it is. -/
theorem collect_accounts_for_lines (d : Digest) (source : Source) (h : source.Unfailing) :
    ∃ (c : Collection) (remarks : List (Option Note)), collect d source = (c, none) ∧
      remarks.length = (Intake.linesOf source.bytes).length ∧
      c.notes = remarks.reduceOption ∧
      (∀ note ∈ c.notes, note.level = .trace) ∧
      (∀ before line after, Intake.linesOf source.bytes = before ++ line :: after →
        ∃ (first next : Collection) (remark : Option Note),
          collect d (Source.whole before.flatten) = (first, none) ∧
          collect d (Source.whole (before ++ [line]).flatten) = (next, none) ∧
          remarks[before.length]? = some remark ∧
          first.notes = (remarks.take before.length).reduceOption ∧
          next.notes = first.notes ++ remark.toList ∧
          (remark = none ↔ ∃ text, Utf8.encode text = line ∧
            (Text.trim text = "" ∨
              (∃ record, Entry.readRecord (Text.trim text) = .ok record ∧
                Entry.NoDiagnostic record) ∨
              next.digest.size = first.digest.size + 1)) ∧
          ∀ number fault, remark = some (.undecodable number fault) → number = before.length + 1) ∧
      d.size ≤ c.digest.size ∧
      (Intake.entriesOf source.bytes).length =
        c.digest.size - d.size + (Note.repeated c.notes).length ∧
      ∀ again : Source, again.Unfailing → again.bytes = source.bytes →
        ∃ c', collect c.digest again = (c', none) ∧ c'.digest = c.digest ∧
          Note.repeated c'.notes = Intake.entriesOf source.bytes := by
  refine ⟨_, (Collection.start d).remarks (Intake.linesOf source.bytes), collect_unfailing h d,
    Collection.length_remarks _ _, Collection.notes_start_addLines _ _, ?_, ?_, ?_⟩
  · intro note hnote
    simpa [Collection.start] using Collection.level_addLines hnote
  · intro before line after hlines
    have hbefore : before <+: Intake.linesOf source.bytes := ⟨_, hlines.symm⟩
    have hline : before ++ [line] <+: Intake.linesOf source.bytes := ⟨after, by simp [hlines]⟩
    refine ⟨_, _, ((Collection.start d).addLines before).remark? line,
      collect_beginning hbefore d, collect_beginning hline d, ?_, ?_, ?_, ?_, ?_⟩
    · rw [hlines, Collection.getElem?_remarks]
    · rw [hlines, Collection.take_remarks, Collection.notes_start_addLines]
    · rw [Collection.addLines_append]
      exact Collection.notes_addLine _ _
    · rw [Collection.addLines_append]
      exact Collection.remark?_eq_none_iff_text
    · intro number fault hremark
      rw [Collection.number_of_remark? hremark, Collection.lines_addLines, Collection.start,
        Nat.zero_add]
  · obtain ⟨grown, hsize, hlength⟩ :=
      (Collection.start d).growth_addLines (Intake.linesOf source.bytes)
    have hstart : Note.repeated (Collection.start d).notes = [] := rfl
    rw [hstart, List.length_nil, Nat.add_zero] at hlength
    change _ = d.size + grown at hsize
    refine ⟨by omega, ?_, ?_⟩
    · rw [hsize, Nat.add_sub_cancel_left]
      exact hlength
    · intro again hagain hbytes
      have hknown : ∀ e ∈ Intake.entriesOf source.bytes,
          ((Collection.start d).addLines (Intake.linesOf source.bytes)).digest.isNew e = false := by
        intro e he
        rw [Collection.digest_addLines]
        exact Digest.not_isNew_insertAll he
      refine ⟨_, collect_unfailing hagain _, ?_, ?_⟩
      · rw [hbytes, Collection.digest_addLines]
        exact Digest.insertAll_of_not_isNew hknown
      · rw [hbytes]
        exact Collection.repeated_addLines hknown

/-- A record that comes twice: one line in the digest, and one note, that of the duplicate; read again,
two duplicates. -/
theorem collect_accounts_for_lines_twice :
    ∃ (e : Entry) (source : Source), source.Unfailing ∧
      source.bytes = [e, e].flatMap (fun e => Utf8.encode e.recordLine) ∧
      ∃ c, collect Digest.empty source = (c, none) ∧ c.digest.size = 1 ∧ c.notes.length = 1 ∧
        (Note.repeated c.notes).length = 1 ∧
        ∃ c', collect c.digest source = (c', none) ∧ c'.digest = c.digest ∧
          Note.repeated c'.notes = [e, e] := by
  obtain ⟨e, he⟩ : ∃ e : Entry, e = ⟨.error, "a.rs", "1", "m"⟩ := ⟨_, rfl⟩
  have hread := Source.unfailing_whole ([e, e].flatMap fun e => Utf8.encode e.recordLine)
  have hbytes := Source.bytes_whole ([e, e].flatMap fun e => Utf8.encode e.recordLine)
  have hlines := Entry.linesOf_recordLines [e, e]
  have hentries := Entry.entriesOf_recordLines [e, e]
  obtain ⟨c, remarks, hcollect, hlength, hnotes, -, heach, -, hcount, hagain⟩ :=
    collect_accounts_for_lines Digest.empty _ hread
  obtain ⟨c', hcollect', hdigest, hrepeated⟩ := hagain _ hread rfl
  obtain ⟨first, next, remark, hfirst, hnext, hremark, -, -, hsilent, -⟩ :=
    heach [] (Utf8.encode e.recordLine) [Utf8.encode e.recordLine] (by rw [hbytes, hlines]; rfl)
  rw [hbytes, hlines] at hlength
  rw [hbytes, hentries] at hcount hrepeated
  have hsize : c.digest.size = 1 := by
    rw [digest_of_collect hread hcollect, hbytes, hentries, he]
    decide
  -- the first of the two lines makes the digest larger, so nothing is noted on it
  have hgrown : next.digest.size = first.digest.size + 1 := by
    have hone : Intake.entriesOf ([] ++ [Utf8.encode e.recordLine]).flatten = [e] := by
      rw [List.nil_append, List.flatten_singleton, e.entriesOf_recordLine]
    rw [digest_of_collect (Source.unfailing_whole _) hfirst,
      digest_of_collect (Source.unfailing_whole _) hnext, Source.bytes_whole, Source.bytes_whole,
      hone, he]
    decide
  obtain rfl : remark = none := hsilent.mpr ⟨e.recordLine, rfl, .inr (.inr hgrown)⟩
  obtain ⟨silent, second, rfl⟩ := List.length_eq_two.mp hlength
  obtain rfl : silent = none := by simpa using hremark
  have honce : (Note.repeated c.notes).length = 1 := by
    simp only [hsize, List.length_cons, List.length_nil] at hcount
    change 2 = 1 - 0 + _ at hcount
    omega
  have hnote : c.notes.length = 1 := by
    have hle : (Note.repeated c.notes).length ≤ c.notes.length := List.length_filterMap_le _ _
    have hsecond : c.notes.length ≤ 1 := by
      cases second <;> simp [hnotes]
    omega
  exact ⟨e, _, hread, hbytes, c, hcollect, hsize, hnote, honce, c', hcollect', hdigest, hrepeated⟩

end DiagnosticDigest
