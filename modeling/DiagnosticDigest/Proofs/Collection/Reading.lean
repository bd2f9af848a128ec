import DiagnosticDigest.Proofs.Collection.Lines
import DiagnosticDigest.Proofs.Utf8

/-!
# What reading a stream leaves

A stream is taken in byte by byte, from pieces of any size. What that leaves depends only on the
lines of the bytes that arrived: after every byte the lines that are closed have been added, and the
bytes of the open line are pending. A failure drops the open line and nothing else.

## Main definitions

* `Source.Unfailing` — a source that is read to its end.
* `Source.fullLines` — the lines of a source that are read in full.
* `Collection.addLines` — taking in complete lines, without a stream.
-/

namespace DiagnosticDigest

/-! ## Entries -/

namespace Digest

theorem insertAll_cons (d : Digest) (e : Entry) (entries : List Entry) :
    d.insertAll (e :: entries) = (d.insert e).insertAll entries := rfl

theorem insertAll_append (d : Digest) (a b : List Entry) :
    d.insertAll (a ++ b) = (d.insertAll a).insertAll b := by
  simp [insertAll]

/-- The lines after taking in entries: the old ones, and one for each entry, by its severity. -/
theorem mem_linesOf_insertAll {d : Digest} {entries : List Entry} {severity : Severity}
    {line : String} :
    line ∈ (d.insertAll entries).linesOf severity ↔
      line ∈ d.linesOf severity ∨ ∃ e ∈ entries, e.severity = severity ∧ e.line = line := by
  induction entries generalizing d with
  | nil => simp [insertAll]
  | cons e entries ih =>
    rw [insertAll_cons, ih, mem_linesOf_insert]
    constructor
    · rintro ((⟨rfl, rfl⟩ | h) | ⟨other, hmem, h⟩)
      · exact .inr ⟨e, List.mem_cons_self, rfl, rfl⟩
      · exact .inl h
      · exact .inr ⟨other, List.mem_cons_of_mem _ hmem, h⟩
    · rintro (h | ⟨other, hmem, rfl, rfl⟩)
      · exact .inl (.inr h)
      · rcases List.mem_cons.mp hmem with rfl | hmem
        · exact .inl (.inl ⟨rfl, rfl⟩)
        · exact .inr ⟨other, hmem, rfl, rfl⟩

end Digest

namespace Entry

/-- The entry of a line that is given by its bytes, if it gives one. -/
def ofBytes? (bytes : List UInt8) : Option Entry :=
  (ofBytes bytes).toOption

/-- A line gives an entry if it is a text that does. -/
theorem ofBytes?_eq_some_iff {bytes : List UInt8} {e : Entry} :
    ofBytes? bytes = some e ↔ ∃ text, Utf8.encode text = bytes ∧ ofLine text = .ok e := by
  cases hdecode : Utf8.decode bytes with
  | error fault =>
    have hnot : ∀ text, Utf8.encode text ≠ bytes := by
      intro text htext
      rw [Utf8.decode_eq_ok_iff.mpr htext] at hdecode
      simp at hdecode
    simp [ofBytes?, ofBytes, hdecode, hnot, Except.toOption]
  | ok text =>
    have htext := Utf8.decode_eq_ok_iff.mp hdecode
    rw [ofBytes?, ofBytes, hdecode]
    constructor
    · intro h
      refine ⟨text, htext, ?_⟩
      cases hline : ofLine text <;> simp_all [Except.toOption]
    · rintro ⟨other, hother, h⟩
      obtain rfl := Utf8.encode_injective (hother.trans htext.symm)
      simp [h, Except.toOption]

/-- The first line gives its entry, if it has one, before those of the others. -/
theorem filterMap_ofBytes?_cons (line : List UInt8) (lines : List (List UInt8)) :
    (line :: lines).filterMap ofBytes? =
      (ofBytes? line).toList ++ lines.filterMap ofBytes? := by
  cases h : ofBytes? line <;> simp [h]

end Entry

/-! ## Lines -/

namespace Collection

@[simp] theorem lines_addLine (c : Collection) (bytes : List UInt8) :
    (c.addLine bytes).lines = c.lines + 1 := by
  rw [addLine]
  cases Entry.ofBytes bytes with
  | error dismissal => rfl
  | ok e => cases h : c.digest.isNew e <;> simp [h]

/-- A line adds its entry to the digest, whether or not the digest has it already. -/
theorem digest_addLine (c : Collection) (bytes : List UInt8) :
    (c.addLine bytes).digest = c.digest.insertAll (Entry.ofBytes? bytes).toList := by
  rw [addLine, Entry.ofBytes?]
  cases Entry.ofBytes bytes with
  | error dismissal => rfl
  | ok e =>
    cases h : c.digest.isNew e
    · simp [h, Except.toOption, Digest.insertAll, Digest.insert_of_not_isNew h]
    · simp [h, Except.toOption, Digest.insertAll]

/-- Takes in complete lines one after the other. -/
def addLines (c : Collection) (lines : List (List UInt8)) : Collection :=
  lines.foldl addLine c

theorem addLines_cons (c : Collection) (line : List UInt8) (lines : List (List UInt8)) :
    c.addLines (line :: lines) = (c.addLine line).addLines lines := rfl

theorem addLines_append (c : Collection) (a b : List (List UInt8)) :
    c.addLines (a ++ b) = (c.addLines a).addLines b := by
  simp [addLines]

theorem lines_addLines (c : Collection) (lines : List (List UInt8)) :
    (c.addLines lines).lines = c.lines + lines.length := by
  induction lines generalizing c with
  | nil => rfl
  | cons line lines ih =>
    rw [addLines_cons, ih, lines_addLine, List.length_cons]
    omega

theorem digest_addLines (c : Collection) (lines : List (List UInt8)) :
    (c.addLines lines).digest = c.digest.insertAll (lines.filterMap Entry.ofBytes?) := by
  induction lines generalizing c with
  | nil => rfl
  | cons line lines ih =>
    rw [addLines_cons, ih, digest_addLine, ← Digest.insertAll_append,
      ← Entry.filterMap_ofBytes?_cons]

end Collection

/-! ## Bytes -/

namespace Intake

/-- Bytes without a line feed only wait for the end of their line. -/
theorem foldl_addByte_open {bytes : List UInt8} (h : lineFeed ∉ bytes) (s : Intake) :
    bytes.foldl addByte s = ⟨s.collection, bytes.reverse ++ s.pending⟩ := by
  induction bytes generalizing s with
  | nil => rfl
  | cons b bytes ih =>
    simp only [List.mem_cons, not_or] at h
    rw [List.foldl_cons, ih h.2, addByte, if_neg (Ne.symm h.1)]
    simp

/-- Closed bytes add their lines and leave nothing pending. -/
theorem foldl_addByte_closed {bytes : List UInt8} (h : Closed bytes) (c : Collection) :
    bytes.foldl addByte ⟨c, []⟩ = ⟨c.addLines (linesOf bytes), []⟩ := by
  refine closed_induction
    (motive := fun bytes => bytes.foldl addByte ⟨c, []⟩ = ⟨c.addLines (linesOf bytes), []⟩)
    rfl ?_ bytes h
  intro closed bytes hclosed hbytes ih
  rw [List.foldl_append, ih, List.foldl_append, foldl_addByte_open hbytes, linesOf_append hclosed,
    linesOf_single hbytes, Collection.addLines_append]
  simp [addByte, Collection.addLines]

/-- The state after any bytes: closed lines are added, the open line is pending. -/
theorem foldl_addByte {closed rest : List UInt8} (hclosed : Closed closed)
    (hrest : lineFeed ∉ rest) (c : Collection) :
    (closed ++ rest).foldl addByte ⟨c, []⟩ = ⟨c.addLines (linesOf closed), rest.reverse⟩ := by
  rw [List.foldl_append, foldl_addByte_closed hclosed, foldl_addByte_open hrest, List.append_nil]

/-- At the end of the bytes all their lines are added, an open one too. -/
theorem finish_foldl_addByte (bytes : List UInt8) (c : Collection) :
    (bytes.foldl addByte ⟨c, []⟩).finish = c.addLines (linesOf bytes) := by
  obtain ⟨closed, rest, rfl, hclosed, hrest⟩ := exists_closed_append bytes
  rw [foldl_addByte hclosed hrest, linesOf_append hclosed, Collection.addLines_append]
  by_cases hne : rest = []
  · simp [hne, finish, linesOf, Collection.addLines]
  · simp [hne, finish, linesOf_open hne hrest, Collection.addLines]

end Intake

/-! ## Sources -/

/-- A source that is read to its end. -/
def Source.Unfailing (source : Source) : Prop :=
  ∀ reason, Delivery.failure reason ∉ source

theorem Source.unfailing_whole (bytes : List UInt8) : (Source.whole bytes).Unfailing := by
  intro reason
  cases bytes <;> simp [Source.whole]

/-- Whether a read fails. -/
def Delivery.isFailure : Delivery → Bool
  | .failure _ => true
  | _ => false

theorem Source.unfailing_iff {source : Source} :
    source.Unfailing ↔ ∀ delivery ∈ source, delivery.isFailure = false := by
  constructor
  · intro h delivery hmem
    cases delivery with
    | failure reason => exact absurd hmem (h reason)
    | piece | interrupted => rfl
  · intro h reason hmem
    have hfailure := h _ hmem
    contradiction

instance (source : Source) : Decidable source.Unfailing :=
  decidable_of_iff _ Source.unfailing_iff.symm

theorem Source.bytes_append_failure (before : Source) (reason : Failure) (after : Source) :
    Source.bytes (before ++ .failure reason :: after) = before.bytes := by
  induction before with
  | nil => rfl
  | cons delivery before ih => cases delivery <;> simp [Source.bytes, ih]

/-- A source that is not read to its end fails behind deliveries without a failure. -/
theorem Source.exists_failure {source : Source} (h : ¬ source.Unfailing) :
    ∃ (before : Source) (reason : Failure) (after : Source),
      source = before ++ .failure reason :: after ∧ before.Unfailing := by
  induction source with
  | nil => exact absurd (by simp [Source.Unfailing]) h
  | cons delivery source ih =>
    by_cases hfirst : ∃ reason, delivery = .failure reason
    · obtain ⟨reason, rfl⟩ := hfirst
      exact ⟨[], reason, source, rfl, by simp [Source.Unfailing]⟩
    · have hne : ∀ reason, delivery ≠ .failure reason := not_exists.mp hfirst
      have hrest : ¬ Source.Unfailing source := by
        intro hrest
        apply h
        intro reason hmem
        rcases List.mem_cons.mp hmem with heq | hmem
        · exact hne reason heq.symm
        · exact hrest reason hmem
      obtain ⟨before, reason, after, rfl, hbefore⟩ := ih hrest
      refine ⟨delivery :: before, reason, after, rfl, ?_⟩
      intro other hmem
      rcases List.mem_cons.mp hmem with heq | hmem
      · exact hne other heq.symm
      · exact hbefore other hmem

namespace Intake

/-- Of deliveries without a failure only the bytes count, not their pieces or interruptions. -/
theorem drain_append {before : Source} (h : before.Unfailing) (s : Intake) (rest : Source) :
    s.drain (before ++ rest) = (before.bytes.foldl addByte s).drain rest := by
  induction before generalizing s with
  | nil => rfl
  | cons delivery before ih =>
    have htail : Source.Unfailing before := fun reason hmem =>
      h reason (List.mem_cons_of_mem _ hmem)
    cases delivery with
    | piece first more =>
      rw [List.cons_append, drain, ih htail, Source.bytes, List.foldl_append]
    | interrupted =>
      rw [List.cons_append, drain, ih htail, Source.bytes]
    | failure reason => exact absurd List.mem_cons_self (h reason)

end Intake

/-- A source that is read to its end leaves all its lines added. -/
theorem collect_unfailing {source : Source} (h : source.Unfailing) (d : Digest) :
    collect d source = ((Collection.start d).addLines (Intake.linesOf source.bytes), none) := by
  have hdrain := Intake.drain_append h ⟨Collection.start d, []⟩ []
  rw [List.append_nil] at hdrain
  rw [collect, hdrain, Intake.drain, Intake.finish_foldl_addByte]

/-- A failure leaves the closed lines added and drops the open one. -/
theorem collect_failing {before : Source} (h : before.Unfailing) {closed rest : List UInt8}
    (hbytes : before.bytes = closed ++ rest) (hclosed : Intake.Closed closed)
    (hrest : Intake.lineFeed ∉ rest) (reason : Failure) (after : Source) (d : Digest) :
    collect d (before ++ .failure reason :: after) =
      ((Collection.start d).addLines (Intake.linesOf closed), some reason) := by
  rw [collect, Intake.drain_append h, hbytes, Intake.foldl_addByte hclosed hrest, Intake.drain]

/-- The closed lines are those of the closed part of the bytes. -/
theorem Intake.filter_closed_linesOf {closed rest : List UInt8} (hclosed : Closed closed)
    (hrest : lineFeed ∉ rest) : (linesOf (closed ++ rest)).filter (Closed ·) = linesOf closed := by
  have hkept : (linesOf closed).filter (Closed ·) = linesOf closed := by
    rw [List.filter_eq_self]
    simpa using closed_of_mem_linesOf hclosed
  have hdropped : (linesOf rest).filter (Closed ·) = [] := by
    by_cases hne : rest = []
    · simp [hne, linesOf]
    · have hopen : ¬ Closed rest := fun h =>
        hne ((closed_append_iff (.inl rfl) hrest).mp h)
      simp [linesOf_open hne hrest, hopen]
  rw [linesOf_append hclosed, List.filter_append, hkept, hdropped, List.append_nil]

/-- The lines of a source that are read in full: after a failure those that end in a line feed. -/
def Source.fullLines (source : Source) : List (List UInt8) :=
  if source.Unfailing then Intake.linesOf source.bytes
  else (Intake.linesOf source.bytes).filter (Intake.Closed ·)

/-- The lines that are read in full are the first ones. -/
theorem Source.fullLines_prefix (source : Source) :
    source.fullLines <+: Intake.linesOf source.bytes := by
  rw [fullLines]
  split
  · exact List.prefix_rfl
  · obtain ⟨closed, rest, hbytes, hclosed, hrest⟩ := Intake.exists_closed_append source.bytes
    rw [hbytes, Intake.filter_closed_linesOf hclosed hrest, Intake.linesOf_append hclosed]
    exact List.prefix_append _ _

/-- Only the last line that is read in full can be left open. -/
theorem Source.closed_of_fullLines_eq {source : Source} {line : List UInt8}
    {before after : List (List UInt8)} (h : source.fullLines = before ++ line :: after)
    (hafter : after ≠ []) : Intake.Closed line := by
  obtain ⟨dropped, hlines⟩ := source.fullLines_prefix
  rw [h, List.append_assoc, List.cons_append] at hlines
  exact Intake.closed_of_linesOf_eq hlines.symm (by simp [hafter])

/-- Collecting a source, whether or not it fails, adds the lines that are read in full. -/
theorem collect_fullLines (d : Digest) (source : Source) :
    (collect d source).1 = (Collection.start d).addLines source.fullLines := by
  by_cases h : source.Unfailing
  · rw [Source.fullLines, if_pos h, collect_unfailing h]
  · rw [Source.fullLines, if_neg h]
    obtain ⟨before, reason, after, rfl, hbefore⟩ := Source.exists_failure h
    obtain ⟨closed, rest, hbytes, hclosed, hrest⟩ := Intake.exists_closed_append before.bytes
    rw [collect_failing hbefore hbytes hclosed hrest, Source.bytes_append_failure, hbytes,
      Intake.filter_closed_linesOf hclosed hrest]

end DiagnosticDigest
