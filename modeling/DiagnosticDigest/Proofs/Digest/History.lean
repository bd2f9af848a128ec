import DiagnosticDigest.Proofs.Digest
import Mathlib.Data.List.Dedup

/-!
# What a digest has taken in

Entries come to a digest one by one, in lists, from lines and from streams, and it can be made anew.
Whatever is done to it, it is the digest of the entries that it has taken in since it was last made
anew. So it holds one line for each of these, under the severity that the line names.

## Main definitions

* `Digest.Operation` — what can be done to a digest, and which entries it takes in then.
* `Digest.after`, `Digest.history` — the digest after operations, and the entries it is made of.
-/

namespace DiagnosticDigest

/-! ## Lines and severities -/

/-- The line of an entry tells its severity. -/
theorem Entry.severity_eq_of_line_eq {a b : Entry} (h : a.line = b.line) :
    a.severity = b.severity := by
  obtain ⟨rest, hrest⟩ := a.exists_line_eq
  obtain ⟨other, hother⟩ := b.exists_line_eq
  rw [hrest, hother] at h
  have hchars := congrArg String.toList h
  simp only [String.toList_append, List.append_assoc] at hchars
  -- the first letters of the two names differ
  cases ha : a.severity <;> cases hb : b.severity <;> simp [ha, hb, Severity.label] at hchars ⊢

theorem LineSet.nodup_lines (s : LineSet) : s.lines.Nodup := by
  refine s.ascending.imp ?_
  rintro line _ hbefore rfl
  exact Utf8.Before.irrefl line hbefore

namespace Digest

theorem mem_linesOf_error {d : Digest} {line : String} :
    line ∈ d.linesOf .error ↔ line ∈ d.errors :=
  Iff.rfl

theorem mem_linesOf_warning {d : Digest} {line : String} :
    line ∈ d.linesOf .warning ↔ line ∈ d.warnings :=
  Iff.rfl

/-- A digest of entries holds no line under two severities. -/
theorem severity_unique {entries : List Entry} {severity other : Severity} {line : String}
    (h : line ∈ (ofEntries entries).linesOf severity)
    (hother : line ∈ (ofEntries entries).linesOf other) : severity = other := by
  obtain ⟨a, -, rfl, ha⟩ := mem_linesOf_ofEntries.mp h
  obtain ⟨b, -, rfl, hb⟩ := mem_linesOf_ofEntries.mp hother
  exact Entry.severity_eq_of_line_eq (ha.trans hb.symm)

/-- No line of a digest of entries is both an error and a warning. -/
theorem notMem_warnings_of_mem_errors {entries : List Entry} {line : String}
    (h : line ∈ (ofEntries entries).errors) : line ∉ (ofEntries entries).warnings := by
  intro hwarning
  have heq : Severity.error = Severity.warning :=
    severity_unique (mem_linesOf_error.mpr h) (mem_linesOf_warning.mpr hwarning)
  contradiction

/-- A digest of entries holds their lines, under one severity or the other. -/
theorem mem_ofEntries_iff {entries : List Entry} {line : String} :
    line ∈ (ofEntries entries).errors ∨ line ∈ (ofEntries entries).warnings ↔
      ∃ e ∈ entries, e.line = line := by
  rw [← mem_linesOf_error, ← mem_linesOf_warning, mem_linesOf_ofEntries, mem_linesOf_ofEntries]
  constructor
  · rintro (⟨e, he, -, hline⟩ | ⟨e, he, -, hline⟩) <;> exact ⟨e, he, hline⟩
  · rintro ⟨e, he, hline⟩
    cases hseverity : e.severity with
    | error => exact .inl ⟨e, he, hseverity, hline⟩
    | warning => exact .inr ⟨e, he, hseverity, hline⟩

/-- An entry is new to a digest of entries exactly if none of them has its line. That only the set of
its own severity is searched makes no difference, since its line stands in no other. -/
theorem isNew_ofEntries_iff {entries : List Entry} {e : Entry} :
    (ofEntries entries).isNew e = true ↔ ¬ ∃ a ∈ entries, a.line = e.line := by
  rw [isNew, decide_eq_true_iff, not_iff_not, mem_linesOf_ofEntries]
  constructor
  · rintro ⟨a, ha, -, hline⟩
    exact ⟨a, ha, hline⟩
  · rintro ⟨a, ha, hline⟩
    exact ⟨a, ha, Entry.severity_eq_of_line_eq hline, hline⟩

theorem linesOf_insert_of_ne {d : Digest} {e : Entry} {other : Severity} (h : other ≠ e.severity) :
    (d.insert e).linesOf other = d.linesOf other := by
  apply LineSet.ext_mem
  simp [h]

/-- A digest of entries holds as many lines as there are different ones among theirs. -/
theorem size_ofEntries (entries : List Entry) :
    (ofEntries entries).size = (entries.map Entry.line).dedup.length := by
  have hdisjoint : (ofEntries entries).errors.lines.Disjoint (ofEntries entries).warnings.lines :=
    fun _ herror hwarning => notMem_warnings_of_mem_errors herror hwarning
  have hnodup : ((ofEntries entries).errors.lines ++ (ofEntries entries).warnings.lines).Nodup :=
    (LineSet.nodup_lines _).append (LineSet.nodup_lines _) hdisjoint
  have hmem : ∀ line, line ∈ (ofEntries entries).errors.lines ++ (ofEntries entries).warnings.lines ↔
      line ∈ (entries.map Entry.line).dedup := by
    intro line
    rw [List.mem_append, List.mem_dedup, List.mem_map]
    exact mem_ofEntries_iff
  rw [size, LineSet.size, LineSet.size, ← List.length_append]
  exact ((List.perm_ext_iff_of_nodup hnodup (List.nodup_dedup _)).mpr hmem).length_eq

theorem isEmpty_iff_size {d : Digest} : d.isEmpty = true ↔ d.size = 0 := by
  simp [isEmpty, size, LineSet.size]

/-- Only the digest of no entries is empty. -/
theorem isEmpty_ofEntries_iff {entries : List Entry} :
    (ofEntries entries).isEmpty = true ↔ entries = [] := by
  rw [isEmpty_iff_size, size_ofEntries, List.length_eq_zero_iff, List.dedup_eq_nil,
    List.map_eq_nil_iff]

/-! ## Operations -/

/-- What can be done to a digest: it is made anew, empty or from entries, or it takes in an entry,
entries, what a line gives, or what a source gives before it ends or fails. -/
inductive Operation where
  | renew
  | ofEntries (entries : List Entry)
  | insert (e : Entry)
  | insertAll (entries : List Entry)
  | insertLine (line : String)
  | collect (source : Source)

namespace Operation

/-- The digest after an operation. -/
def apply (d : Digest) : Operation → Digest
  | renew => Digest.empty
  | ofEntries entries => Digest.ofEntries entries
  | insert e => d.insert e
  | insertAll entries => d.insertAll entries
  | insertLine line =>
    match Entry.ofLine line with
    | .ok e => d.insert e
    | .error _ => d
  | collect source => (DiagnosticDigest.collect d source).1.digest

/-- The entries that a digest has taken in since it was last made anew, after an operation. -/
def extend (taken : List Entry) : Operation → List Entry
  | renew => []
  | ofEntries entries => entries
  | insert e => taken ++ [e]
  | insertAll entries => taken ++ entries
  | insertLine line => taken ++ (Entry.ofLine line).toOption.toList
  | collect source => taken ++ source.fullLines.filterMap Entry.ofBytes?

/-- Every operation leaves the digest of the entries that were taken in. -/
theorem apply_ofEntries (taken : List Entry) (op : Operation) :
    op.apply (Digest.ofEntries taken) = Digest.ofEntries (op.extend taken) := by
  cases op with
  | renew => rfl
  | ofEntries entries => rfl
  | insert e => exact (insertAll_append _ taken [e]).symm
  | insertAll entries => exact (insertAll_append _ taken entries).symm
  | insertLine line =>
    rw [apply, extend]
    cases Entry.ofLine line with
    | ok e => exact (insertAll_append _ taken [e]).symm
    | error dismissal => simp [Except.toOption]
  | collect source =>
    rw [apply, collect_fullLines, Collection.digest_addLines]
    exact (insertAll_append _ taken _).symm

end Operation

/-- The digest after operations on an empty one. -/
def after (ops : List Operation) : Digest :=
  ops.foldl Operation.apply empty

/-- The entries that were taken in by operations since the digest was last made anew. -/
def history (ops : List Operation) : List Entry :=
  ops.foldl Operation.extend []

/-- After any operations a digest is the digest of its history. -/
theorem after_eq_ofEntries (ops : List Operation) : after ops = ofEntries (history ops) := by
  have hrun : ∀ taken : List Entry, ops.foldl Operation.apply (ofEntries taken) =
      ofEntries (ops.foldl Operation.extend taken) := by
    induction ops with
    | nil => exact fun _ => rfl
    | cons op ops ih =>
      intro taken
      rw [List.foldl_cons, List.foldl_cons, Operation.apply_ofEntries, ih]
  exact hrun []

/-- What holds of every digest that operations lead to. Its sections are in ascending order, each
line names its severity, and no line is in both. Taking in one more entry adds a line exactly if the
line was in neither section, and then only to the section that the entry names. There are as many
lines as different ones in the history, so none exactly if there is no history. -/
theorem after_tracks_history (ops : List Operation) :
    ((after ops).errors.lines.Pairwise Utf8.Before ∧ (after ops).errors.lines.Nodup) ∧
      ((after ops).warnings.lines.Pairwise Utf8.Before ∧ (after ops).warnings.lines.Nodup) ∧
      (∀ line ∈ (after ops).errors, ∃ rest, line = "error|" ++ rest) ∧
      (∀ line ∈ (after ops).warnings, ∃ rest, line = "warning|" ++ rest) ∧
      (∀ line ∈ (after ops).errors, line ∉ (after ops).warnings) ∧
      (∀ e : Entry,
        ((after ops).isNew e = true ↔
          e.line ∉ (after ops).errors ∧ e.line ∉ (after ops).warnings) ∧
        ((after ops).isNew e = true →
          (∀ line, line ∈ ((after ops).insert e).linesOf e.severity ↔
            line = e.line ∨ line ∈ (after ops).linesOf e.severity) ∧
          (∀ other, other ≠ e.severity →
            ((after ops).insert e).linesOf other = (after ops).linesOf other) ∧
          ((after ops).insert e).size = (after ops).size + 1) ∧
        ((after ops).isNew e = false → (after ops).insert e = after ops)) ∧
      (after ops).size = ((history ops).map Entry.line).dedup.length ∧
      ((after ops).isEmpty = true ↔ history ops = []) := by
  rw [after_eq_ofEntries]
  generalize history ops = entries
  refine ⟨⟨LineSet.ascending _, LineSet.nodup_lines _⟩, ⟨LineSet.ascending _, LineSet.nodup_lines _⟩,
    ?errors, ?warnings, fun _ => notMem_warnings_of_mem_errors, ?insertion, size_ofEntries entries,
    isEmpty_ofEntries_iff⟩
  case errors =>
    intro line hline
    exact exists_eq_of_mem_ofEntries (mem_linesOf_error.mpr hline)
  case warnings =>
    intro line hline
    exact exists_eq_of_mem_ofEntries (mem_linesOf_warning.mpr hline)
  case insertion =>
    intro e
    refine ⟨?_, ?_, insert_of_not_isNew⟩
    · rw [isNew_ofEntries_iff, ← mem_ofEntries_iff, not_or]
    · intro hnew
      refine ⟨fun line => by simp, fun other => linesOf_insert_of_ne, ?_⟩
      rw [size_insert, if_pos hnew]

end Digest

end DiagnosticDigest
