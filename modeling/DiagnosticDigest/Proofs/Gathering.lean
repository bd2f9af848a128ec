import DiagnosticDigest.Gathering
import DiagnosticDigest.Proofs.Digest

/-!
# What gathering inputs leaves

Inputs are taken in one after the other until one cannot be opened or read. What that leaves is said
of the bytes that the inputs deliver in turn, where the standard input delivers its own the first
time and nothing after that.

## Main definitions

* `Files.Readable`, `Files.bytes` — files that open and are read to their end, and their bytes.
* `Origin.contents` — what origins deliver in turn.
* `Note.onRun`, `Origin.readNotes` — the notes that are not about a single line, and those that
  reading origins makes.
-/

namespace DiagnosticDigest

/-! ## Inputs -/

/-- Whether a path opens and is read to its end. -/
def Files.Readable (files : Files) (path : String) : Prop :=
  ∃ source, files path = .ok source ∧ source.Unfailing

/-- The bytes of a file. -/
def Files.bytes (files : Files) (path : String) : List UInt8 :=
  match files path with
  | .ok source => source.bytes
  | .error _ => []

/-- Whether every input that is a file can be read. -/
def Files.AllReadable (files : Files) (inputs : List String) : Prop :=
  ∀ path ∈ inputs, path ≠ "-" → files.Readable path

/-- If some input cannot be read, there is a first one. -/
theorem Files.exists_first_unreadable {files : Files} {inputs : List String}
    (h : ¬ files.AllReadable inputs) :
    ∃ (before : List String) (path : String) (after : List String),
      inputs = before ++ path :: after ∧ files.AllReadable before ∧ path ≠ "-" ∧
        ¬ files.Readable path := by
  induction inputs with
  | nil => exact absurd (by simp [AllReadable]) h
  | cons input inputs ih =>
    by_cases hinput : input ≠ "-" ∧ ¬ files.Readable input
    · exact ⟨[], input, inputs, rfl, by simp [AllReadable], hinput.1, hinput.2⟩
    · have hfirst : input ≠ "-" → files.Readable input := by
        simpa using hinput
      have hrest : ¬ files.AllReadable inputs := by
        intro hrest
        apply h
        simpa [AllReadable] using ⟨hfirst, hrest⟩
      obtain ⟨before, path, after, rfl, hbefore, hpath⟩ := ih hrest
      refine ⟨input :: before, path, after, rfl, ?_, hpath⟩
      simpa [AllReadable] using ⟨hfirst, hbefore⟩

namespace Origin

/-- What origins deliver in turn: a file its bytes, and the standard input its own the first time and
nothing after that. -/
def contents (files : Files) (stdin : List UInt8) : List Origin → List (List UInt8)
  | [] => []
  | .standardInput :: rest => stdin :: contents files [] rest
  | .file path :: rest => files.bytes path :: contents files stdin rest

/-- The notes on how many lines each origin had, in turn. -/
def readNotes (files : Files) (stdin : List UInt8) (origins : List Origin) : List Note :=
  List.zipWith (fun bytes origin => .linesRead (Intake.linesOf bytes).length origin)
    (contents files stdin origins) origins

theorem ofArguments_of_ne_nil {arguments : List String} (h : arguments ≠ []) :
    ofArguments arguments = arguments.map ofArgument := by
  cases arguments with
  | nil => exact absurd rfl h
  | cons => rfl

theorem ofArgument_eq_file_iff {argument path : String} :
    ofArgument argument = file path ↔ argument = path ∧ path ≠ "-" := by
  rw [ofArgument]
  by_cases h : argument = "-"
  · subst h
    simp only [if_pos, reduceCtorEq, false_iff, not_and]
    rintro rfl
    simp
  · simp only [if_neg h, file.injEq]
    constructor
    · rintro rfl
      exact ⟨rfl, h⟩
    · exact fun hpath => hpath.1

theorem ofArgument_eq_standardInput_iff {argument : String} :
    ofArgument argument = standardInput ↔ argument = "-" := by
  simp [ofArgument]

theorem file_mem_map_iff {arguments : List String} {path : String} :
    file path ∈ arguments.map ofArgument ↔ path ∈ arguments ∧ path ≠ "-" := by
  simp [ofArgument_eq_file_iff]

theorem file_mem_ofArguments_iff {arguments : List String} {path : String} :
    file path ∈ ofArguments arguments ↔ path ∈ arguments ∧ path ≠ "-" := by
  by_cases h : arguments = []
  · subst h
    simp [ofArguments]
  · rw [ofArguments_of_ne_nil h, file_mem_map_iff]

theorem standardInput_mem_ofArguments_iff {arguments : List String} :
    standardInput ∈ ofArguments arguments ↔ arguments = [] ∨ "-" ∈ arguments := by
  by_cases h : arguments = []
  · subst h
    simp [ofArguments]
  · simp [ofArguments_of_ne_nil h, ofArgument_eq_standardInput_iff, h]

/-- The entries that origins deliver in turn are those of each of them: what the standard input
delivers later on has none. -/
theorem mem_entriesOf_contents_iff {files : Files} {stdin : List UInt8} {origins : List Origin}
    {e : Entry} :
    e ∈ (contents files stdin origins).flatMap Intake.entriesOf ↔
      (∃ path, file path ∈ origins ∧ e ∈ Intake.entriesOf (files.bytes path)) ∨
        standardInput ∈ origins ∧ e ∈ Intake.entriesOf stdin := by
  induction origins generalizing stdin with
  | nil => simp [contents]
  | cons origin origins ih =>
    cases origin with
    | standardInput =>
      rw [contents, List.flatMap_cons, List.mem_append, ih]
      simp [Intake.entriesOf_nil, or_comm]
    | file path =>
      rw [contents, List.flatMap_cons, List.mem_append, ih]
      simp [or_and_right, exists_or, or_assoc]

end Origin

/-! ## Notes -/

/-- The notes that are on the run and not on a single line. -/
def Note.onRun (notes : List Note) : List Note :=
  notes.filter fun note => note.level = .debug

theorem Note.onRun_append (a b : List Note) : onRun (a ++ b) = onRun a ++ onRun b :=
  List.filter_append a b

theorem Dismissal.onRun_note? (dismissal : Dismissal) (line : Nat) :
    Note.onRun (dismissal.note? line).toList = [] := by
  cases dismissal <;> rfl

namespace Collection

/-- What is noted on a line is not on the run. -/
theorem onRun_addLine (c : Collection) (bytes : List UInt8) :
    Note.onRun (c.addLine bytes).notes = Note.onRun c.notes := by
  rw [addLine]
  cases Entry.ofBytes bytes with
  | error dismissal => simp [Note.onRun_append, Dismissal.onRun_note?]
  | ok e =>
    cases h : c.digest.isNew e
    · simp [h, Note.onRun, Note.level]
    · simp [h]

theorem onRun_addLines (c : Collection) (lines : List (List UInt8)) :
    Note.onRun (c.addLines lines).notes = Note.onRun c.notes := by
  induction lines generalizing c with
  | nil => rfl
  | cons line lines ih =>
    rw [addLines_cons, ih, onRun_addLine]

end Collection

/-! ## Sources -/

/-- A source that is not read to its end is collected with a failure, and none of its notes is on the
run. -/
theorem exists_collect_failing {source : Source} (h : ¬ source.Unfailing) (d : Digest) :
    ∃ c reason, collect d source = (c, some reason) ∧ Note.onRun c.notes = [] := by
  obtain ⟨before, reason, after, rfl, hbefore⟩ := Source.exists_failure h
  obtain ⟨closed, rest, hbytes, hclosed, hrest⟩ := Intake.exists_closed_append before.bytes
  refine ⟨_, reason, collect_failing hbefore hbytes hclosed hrest reason after d, ?_⟩
  rw [Collection.onRun_addLines]
  rfl

namespace Gathering

variable {files : Files} {stdin : Source}

/-- A source that is read to its end adds its entries, and one note on the run. -/
theorem addSource_unfailing {source : Source} (h : source.Unfailing) (g : Gathering)
    (origin : Origin) :
    ∃ next : Gathering, g.addSource origin source = (next, none) ∧
      next.digest = g.digest.insertAll (Intake.entriesOf source.bytes) ∧
      Note.onRun next.notes =
        Note.onRun g.notes ++ [.linesRead (Intake.linesOf source.bytes).length origin] := by
  rw [addSource, collect_unfailing h]
  refine ⟨_, rfl, ?_, ?_⟩
  · exact Collection.digest_addLines _ _
  · have hlines := Collection.lines_addLines (Collection.start g.digest)
      (Intake.linesOf source.bytes)
    have hnotes := Collection.onRun_addLines (Collection.start g.digest)
      (Intake.linesOf source.bytes)
    simp only [Collection.start, Nat.zero_add] at hlines hnotes
    simp only [Note.onRun_append, Collection.start, hlines, hnotes]
    simp [Note.onRun, Note.level]

/-- A source that is not read to its end stops, and makes no note on the run. -/
theorem addSource_failing {source : Source} (h : ¬ source.Unfailing) (g : Gathering)
    (origin : Origin) :
    ∃ (next : Gathering) (reason : Failure),
      g.addSource origin source = (next, some (.reading origin reason)) ∧
      Note.onRun next.notes = Note.onRun g.notes := by
  obtain ⟨c, reason, hcollect, hnotes⟩ := exists_collect_failing h g.digest
  rw [addSource, hcollect]
  refine ⟨_, reason, rfl, ?_⟩
  rw [Note.onRun_append, hnotes, List.append_nil]

/-- Origins that can be read are taken in ahead of the others. -/
theorem addOrigins_append {before : List Origin} (hstdin : stdin.Unfailing)
    (h : ∀ path, .file path ∈ before → files.Readable path) (g : Gathering)
    (after : List Origin) :
    ∃ (next : Gathering) (left : Source),
      g.addOrigins files stdin (before ++ after) = next.addOrigins files left after ∧
      next.digest =
        g.digest.insertAll ((Origin.contents files stdin.bytes before).flatMap Intake.entriesOf) ∧
      Note.onRun next.notes = Note.onRun g.notes ++ Origin.readNotes files stdin.bytes before := by
  induction before generalizing g stdin with
  | nil => exact ⟨g, stdin, rfl, rfl, by simp [Origin.readNotes]⟩
  | cons origin before ih =>
    have hrest : ∀ path, .file path ∈ before → files.Readable path := fun path hpath =>
      h path (List.mem_cons_of_mem _ hpath)
    cases origin with
    | standardInput =>
      obtain ⟨first, hadd, hdigest, hnotes⟩ := addSource_unfailing hstdin g .standardInput
      have hempty : Source.Unfailing [] := by
        simp [Source.Unfailing]
      obtain ⟨next, left, hnext, hdigests, hall⟩ := ih hempty hrest first
      refine ⟨next, left, ?_, ?_, ?_⟩
      · rw [List.cons_append, addOrigins, hadd]
        exact hnext
      · rw [hdigests, hdigest, ← Digest.insertAll_append]
        rfl
      · rw [hall, hnotes, List.append_assoc]
        rfl
    | file path =>
      obtain ⟨source, hopen, hread⟩ := h path List.mem_cons_self
      have hbytes : files.bytes path = source.bytes := by
        rw [Files.bytes, hopen]
      obtain ⟨first, hadd, hdigest, hnotes⟩ := addSource_unfailing hread g (.file path)
      obtain ⟨next, left, hnext, hdigests, hall⟩ := ih hstdin hrest first
      refine ⟨next, left, ?_, ?_, ?_⟩
      · rw [List.cons_append, addOrigins, hopen]
        simp only [hadd]
        exact hnext
      · rw [hdigests, hdigest, ← Digest.insertAll_append, ← hbytes]
        rfl
      · rw [hall, hnotes, List.append_assoc, ← hbytes]
        rfl

/-- An origin that cannot be opened or read stops at once. -/
theorem addOrigins_unreadable {path : String} (h : ¬ files.Readable path) (g : Gathering)
    (after : List Origin) :
    ∃ (next : Gathering) (t : Trouble),
      g.addOrigins files stdin (.file path :: after) = (next, some t) ∧
      ((∃ reason, files path = .error reason ∧ t = .opening path reason) ∨
        ∃ source reason, files path = .ok source ∧ t = .reading (.file path) reason) ∧
      Note.onRun next.notes = Note.onRun g.notes := by
  cases hopen : files path with
  | error reason =>
    refine ⟨g, .opening path reason, ?_, .inl ⟨reason, rfl, rfl⟩, rfl⟩
    rw [addOrigins, hopen]
  | ok source =>
    have hfailing : ¬ source.Unfailing := fun hread => h ⟨source, hopen, hread⟩
    obtain ⟨next, reason, hadd, hnotes⟩ := addSource_failing hfailing g (.file path)
    refine ⟨next, _, ?_, .inr ⟨source, reason, rfl, rfl⟩, hnotes⟩
    rw [addOrigins, hopen]
    simp only [hadd]

end Gathering

/-! ## All inputs -/

variable {files : Files} {stdin : Source} {inputs : List String}

/-- Inputs that can all be read give the digest of the entries that they deliver in turn. -/
theorem gather_of_allReadable (hstdin : stdin.Unfailing) (h : files.AllReadable inputs) :
    ∃ g : Gathering, gather files stdin inputs = (g, none) ∧
      g.digest = Digest.ofEntries ((Origin.contents files stdin.bytes
        (Origin.ofArguments inputs)).flatMap Intake.entriesOf) := by
  have hread : ∀ path, .file path ∈ Origin.ofArguments inputs → files.Readable path := by
    intro path hpath
    obtain ⟨hmem, hne⟩ := Origin.file_mem_ofArguments_iff.mp hpath
    exact h path hmem hne
  obtain ⟨g, left, hgather, hdigest, -⟩ :=
    Gathering.addOrigins_append hstdin hread Gathering.start []
  rw [List.append_nil, Gathering.addOrigins] at hgather
  exact ⟨g, hgather, hdigest⟩

/-- Which lines the inputs give: those of every file among them, and those of the standard input if it
is asked for. -/
theorem mem_linesOf_gather (hstdin : stdin.Unfailing) (h : files.AllReadable inputs)
    (severity : Severity) (line : String) :
    line ∈ (gather files stdin inputs).1.digest.linesOf severity ↔
      ∃ part : Digest, line ∈ part.linesOf severity ∧
        ((∃ path ∈ inputs, path ≠ "-" ∧
            Digest.ofSource (Source.whole (files.bytes path)) = .ok part) ∨
          (inputs = [] ∨ "-" ∈ inputs) ∧ Digest.ofSource stdin = .ok part) := by
  obtain ⟨g, hgather, hdigest⟩ := gather_of_allReadable hstdin h
  rw [hgather, hdigest, Digest.mem_linesOf_ofEntries]
  simp only [Origin.mem_entriesOf_contents_iff, Origin.file_mem_ofArguments_iff,
    Origin.standardInput_mem_ofArguments_iff, Digest.ofSource_unfailing hstdin,
    Digest.ofSource_unfailing (Source.unfailing_whole _), Source.bytes_whole, Except.ok.injEq]
  constructor
  · rintro ⟨e, ⟨path, ⟨hpath, hne⟩, he⟩ | ⟨hasked, he⟩, hline⟩
    · exact ⟨_, Digest.mem_linesOf_ofEntries.mpr ⟨e, he, hline⟩, .inl ⟨path, hpath, hne, rfl⟩⟩
    · exact ⟨_, Digest.mem_linesOf_ofEntries.mpr ⟨e, he, hline⟩, .inr ⟨hasked, rfl⟩⟩
  · rintro ⟨part, hline, ⟨path, hpath, hne, rfl⟩ | ⟨hasked, rfl⟩⟩
    · obtain ⟨e, he, hline⟩ := Digest.mem_linesOf_ofEntries.mp hline
      exact ⟨e, .inl ⟨path, ⟨hpath, hne⟩, he⟩, hline⟩
    · obtain ⟨e, he, hline⟩ := Digest.mem_linesOf_ofEntries.mp hline
      exact ⟨e, .inr ⟨hasked, he⟩, hline⟩

/-- Inputs in another order, or given several times, give the same digest. -/
theorem gather_congr (hstdin : stdin.Unfailing) (h : files.AllReadable inputs)
    {others : List String} (hothers : ∀ path, path ∈ others ↔ path ∈ inputs) :
    ∃ g : Gathering, gather files stdin others = (g, none) ∧
      g.digest = (gather files stdin inputs).1.digest := by
  have hread : files.AllReadable others := fun path hpath => h path ((hothers path).mp hpath)
  have hempty : others = [] ↔ inputs = [] := by
    simp only [List.eq_nil_iff_forall_not_mem, hothers]
  obtain ⟨g, hgather, -⟩ := gather_of_allReadable hstdin hread
  refine ⟨g, hgather, ?_⟩
  apply Digest.ext_mem
  intro severity line
  have hline := mem_linesOf_gather hstdin hread severity line
  rw [hgather] at hline
  rw [hline, mem_linesOf_gather hstdin h]
  simp only [hothers, hempty]

/-- If all inputs but the last end their lines, they give the digest of one stream of all their
bytes. -/
theorem ofSource_flatten_contents (hstdin : stdin.Unfailing) (h : files.AllReadable inputs)
    (hclosed : ∀ part ∈ (Origin.contents files stdin.bytes (Origin.ofArguments inputs)).dropLast,
      Intake.Closed part) :
    Digest.ofSource (Source.whole
      (Origin.contents files stdin.bytes (Origin.ofArguments inputs)).flatten) =
        .ok (gather files stdin inputs).1.digest := by
  obtain ⟨g, hgather, hdigest⟩ := gather_of_allReadable hstdin h
  rw [hgather, hdigest, Digest.ofSource_unfailing (Source.unfailing_whole _), Source.bytes_whole,
    Intake.entriesOf_flatten hclosed]

/-- If some input cannot be read, the first of them stops the run: the inputs before it are noted and
those behind it are not looked at. -/
theorem gather_of_not_allReadable (hstdin : stdin.Unfailing) (h : ¬ files.AllReadable inputs) :
    ∃ (before : List String) (path : String) (after : List String) (t : Trouble),
      inputs = before ++ path :: after ∧
      files.AllReadable before ∧ path ≠ "-" ∧ ¬ files.Readable path ∧
      (gather files stdin inputs).2 = some t ∧
      ((∃ reason, files path = .error reason ∧ t = .opening path reason) ∨
        ∃ source reason, files path = .ok source ∧ t = .reading (.file path) reason) ∧
      Note.onRun (gather files stdin inputs).1.notes =
        Origin.readNotes files stdin.bytes (before.map Origin.ofArgument) := by
  obtain ⟨before, path, after, rfl, hbefore, hpath, hunread⟩ := Files.exists_first_unreadable h
  have hfile : Origin.ofArgument path = .file path :=
    Origin.ofArgument_eq_file_iff.mpr ⟨rfl, hpath⟩
  have horigins : Origin.ofArguments (before ++ path :: after) =
      before.map Origin.ofArgument ++ .file path :: after.map Origin.ofArgument := by
    rw [Origin.ofArguments_of_ne_nil (by simp), List.map_append, List.map_cons, hfile]
  have hread : ∀ path, .file path ∈ before.map Origin.ofArgument → files.Readable path := by
    intro path hmem
    obtain ⟨hmem, hne⟩ := Origin.file_mem_map_iff.mp hmem
    exact hbefore path hmem hne
  obtain ⟨next, left, hahead, -, hnotes⟩ := Gathering.addOrigins_append hstdin hread
    Gathering.start (.file path :: after.map Origin.ofArgument)
  obtain ⟨last, t, hstop, ht, hlast⟩ := Gathering.addOrigins_unreadable hunread next
    (after.map Origin.ofArgument)
  have hgather : gather files stdin (before ++ path :: after) = (last, some t) := by
    rw [gather, horigins, hahead, hstop]
  rw [hgather]
  exact ⟨before, path, after, t, rfl, hbefore, hpath, hunread, rfl, ht, hlast.trans hnotes⟩

end DiagnosticDigest
