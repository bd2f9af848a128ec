import DiagnosticDigest.Program
import DiagnosticDigest.Proofs.Gathering
import DiagnosticDigest.Proofs.Report.Print

/-!
# What a run leaves

A run that is not asked for the version takes in all inputs before it prints anything. So either all
of them can be read, and the whole report goes out, or nothing does.
-/

namespace DiagnosticDigest.Program

variable {files : Files} {stdin : Source} {stdout : Sink} {inputs arguments : List String}

/-! ## Taking in and printing -/

/-- A sink that takes the whole report and flushes gets it, and all is well. -/
theorem deliver_of_hasRoom {d : Digest} (hroom : stdout.HasRoom (Report.bytes d).length)
    (hflush : stdout.flushFailure = none) :
    (Report.deliver d stdout).sink.arrived = stdout.arrived ++ Report.bytes d ∧
      (Report.deliver d stdout).trouble = none := by
  constructor
  · rw [Report.sink_deliver, Report.arrived_print, Sink.fitting_of_hasRoom hroom, List.take_length]
  · have hprinted : (Report.print d stdout).2 = none := by
      rw [(Report.print_settled d stdout).2, if_pos hroom]
      exact hflush
    rw [Report.trouble_deliver_eq_none_iff, hprinted]
    intro reason hreason
    contradiction

theorem digest_of_gathered {g : Gathering} (hgather : gather files stdin inputs = (g, none))
    (hroom : stdout.HasRoom (Report.bytes g.digest).length) (hflush : stdout.flushFailure = none) :
    (digest files stdin stdout inputs).exitCode = 0 ∧
      (digest files stdin stdout inputs).output.arrived =
        stdout.arrived ++ Report.bytes g.digest := by
  obtain ⟨harrived, htrouble⟩ := deliver_of_hasRoom hroom hflush
  rcases hdeliver : Report.deliver g.digest stdout with ⟨sink, trouble, more⟩
  rw [hdeliver] at harrived htrouble
  change trouble = none at htrouble
  subst htrouble
  simp only [digest, hgather, hdeliver]
  exact ⟨trivial, harrived⟩

theorem digest_of_trouble {g : Gathering} {t : Trouble}
    (hgather : gather files stdin inputs = (g, some t)) :
    digest files stdin stdout inputs = ⟨1, stdout, t.message, g.notes⟩ := by
  rw [digest, hgather]

/-! ## Runs -/

theorem run_of_parse
    (hparse : CommandLine.parse (CommandLine.withoutSubcommand arguments) = .ok ⟨false, inputs⟩) :
    run files stdin stdout arguments = digest files stdin stdout inputs := by
  rw [run, hparse]
  rfl

/-- Taking in inputs succeeds exactly if all files among them can be read. The digest has the lines of
each of these files and of the standard input if it is asked for; in which order the inputs are given
and how often does not count, and inputs that end their lines can as well be put one behind the
other. Else the first file that cannot be opened or read is named, and the inputs before it have been
noted. A run prints the whole report, or nothing. -/
theorem gather_and_run (files : Files) (hstdin : stdin.Unfailing) (inputs : List String) :
    ((gather files stdin inputs).2 = none ↔ files.AllReadable inputs) ∧
    (files.AllReadable inputs →
      (∀ severity line, line ∈ (gather files stdin inputs).1.digest.linesOf severity ↔
        ∃ part : Digest, line ∈ part.linesOf severity ∧
          ((∃ path ∈ inputs, path ≠ "-" ∧
              Digest.ofSource (Source.whole (files.bytes path)) = .ok part) ∨
            (inputs = [] ∨ "-" ∈ inputs) ∧ Digest.ofSource stdin = .ok part)) ∧
      (∀ others : List String, (∀ path, path ∈ others ↔ path ∈ inputs) →
        (gather files stdin others).2 = none ∧
          (gather files stdin others).1.digest = (gather files stdin inputs).1.digest) ∧
      ((∀ part ∈ (Origin.contents files stdin.bytes (Origin.ofArguments inputs)).dropLast,
          Intake.Closed part) →
        Digest.ofSource (Source.whole
          (Origin.contents files stdin.bytes (Origin.ofArguments inputs)).flatten) =
            .ok (gather files stdin inputs).1.digest)) ∧
    (¬ files.AllReadable inputs →
      ∃ (before : List String) (path : String) (after : List String) (t : Trouble),
        inputs = before ++ path :: after ∧
        files.AllReadable before ∧ path ≠ "-" ∧ ¬ files.Readable path ∧
        (gather files stdin inputs).2 = some t ∧
        ((∃ reason, files path = .error reason ∧ t.headline = "Failed to open " ++ path) ∨
          ∃ source, files path = .ok source ∧ t.headline = "Failed to read " ++ path) ∧
        Note.onRun (gather files stdin inputs).1.notes =
          Origin.readNotes files stdin.bytes (before.map Origin.ofArgument)) ∧
    ∀ (arguments : List String) (stdout : Sink),
      CommandLine.parse (CommandLine.withoutSubcommand arguments) = .ok ⟨false, inputs⟩ →
      (files.AllReadable inputs →
        stdout.HasRoom (Report.bytes (gather files stdin inputs).1.digest).length →
        stdout.flushFailure = none →
          (run files stdin stdout arguments).exitCode = 0 ∧
            (run files stdin stdout arguments).output.arrived =
              stdout.arrived ++ Report.bytes (gather files stdin inputs).1.digest) ∧
      (¬ files.AllReadable inputs →
        (run files stdin stdout arguments).exitCode = 1 ∧
          (run files stdin stdout arguments).output = stdout ∧
          ∃ t, (gather files stdin inputs).2 = some t ∧
            (run files stdin stdout arguments).errorText = t.message) := by
  refine ⟨⟨?_, ?_⟩, ?_, ?_, ?_⟩
  · intro hnone
    by_contra hunread
    obtain ⟨before, path, after, t, -, -, -, -, hsome, -⟩ :=
      gather_of_not_allReadable hstdin hunread
    rw [hnone] at hsome
    contradiction
  · intro hread
    obtain ⟨g, hgather, -⟩ := gather_of_allReadable hstdin hread
    rw [hgather]
  · intro hread
    refine ⟨mem_linesOf_gather hstdin hread, ?_, ofSource_flatten_contents hstdin hread⟩
    intro others hothers
    obtain ⟨g, hgather, hdigest⟩ := gather_congr hstdin hread hothers
    rw [hgather]
    exact ⟨rfl, hdigest⟩
  · intro hunread
    obtain ⟨before, path, after, t, hinputs, hbefore, hpath, hfirst, hsome, ht, hnotes⟩ :=
      gather_of_not_allReadable hstdin hunread
    refine ⟨before, path, after, t, hinputs, hbefore, hpath, hfirst, hsome, ?_, hnotes⟩
    obtain ⟨reason, hopen, rfl⟩ | ⟨source, reason, hopen, rfl⟩ := ht
    · exact .inl ⟨reason, hopen, rfl⟩
    · exact .inr ⟨source, hopen, rfl⟩
  · intro arguments stdout hparse
    rw [run_of_parse hparse]
    constructor
    · intro hread hroom hflush
      obtain ⟨g, hgather, -⟩ := gather_of_allReadable hstdin hread
      rw [hgather] at hroom ⊢
      exact digest_of_gathered hgather hroom hflush
    · intro hunread
      obtain ⟨before, path, after, t, -, -, -, -, hsome, -⟩ :=
        gather_of_not_allReadable hstdin hunread
      have hgather : gather files stdin inputs = ((gather files stdin inputs).1, some t) := by
        rw [← hsome]
      rw [digest_of_trouble hgather]
      exact ⟨rfl, rfl, t, hsome, rfl⟩

/-- With no files at all, an interrupted standard input is taken in, and then a file is missing. -/
theorem gather_and_run_missing :
    Source.Unfailing [.interrupted, .piece 0x78 [10]] ∧
      (run (fun _ => .error .noSuchFile) [.interrupted, .piece 0x78 [10]]
        ⟨[], none, none, [], none⟩ ["ediag", "-", "missing"]).exitCode = 1 ∧
      (run (fun _ => .error .noSuchFile) [.interrupted, .piece 0x78 [10]]
        ⟨[], none, none, [], none⟩ ["ediag", "-", "missing"]).output.arrived = [] ∧
      ∃ t : Trouble, t.headline = "Failed to open missing" ∧
        (run (fun _ => .error .noSuchFile) [.interrupted, .piece 0x78 [10]]
          ⟨[], none, none, [], none⟩ ["ediag", "-", "missing"]).errorText = t.message := by
  have hstdin : Source.Unfailing [.interrupted, .piece 0x78 [10]] := by
    simp [Source.Unfailing]
  have hparse : CommandLine.parse (CommandLine.withoutSubcommand ["ediag", "-", "missing"]) =
      .ok ⟨false, ["-", "missing"]⟩ := by
    decide
  have hunread : ¬ Files.AllReadable (fun _ => .error .noSuchFile) ["-", "missing"] := by
    simp [Files.AllReadable, Files.Readable]
  obtain ⟨-, -, hfirst, hrun⟩ :=
    gather_and_run (fun _ => .error .noSuchFile) hstdin ["-", "missing"]
  obtain ⟨before, path, after, t, hinputs, -, hpath, -, hsome, ht, -⟩ := hfirst hunread
  obtain ⟨hcode, houtput, t', hsome', htext⟩ :=
    (hrun _ ⟨[], none, none, [], none⟩ hparse).2 hunread
  have hmissing : path = "missing" := by
    have hmem : path ∈ ["-", "missing"] := by
      simp [hinputs]
    simpa [hpath] using hmem
  obtain rfl : t = t' := Option.some.inj (hsome.symm.trans hsome')
  refine ⟨hstdin, hcode, congrArg Sink.arrived houtput, t, ?_, htext⟩
  subst hmissing
  simpa using ht

end DiagnosticDigest.Program
