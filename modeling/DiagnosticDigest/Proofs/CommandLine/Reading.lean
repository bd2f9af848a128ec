import DiagnosticDigest.Program
import DiagnosticDigest.Proofs.CommandLine.Argument
import Mathlib.Tactic.MkIffOfInductiveProp

/-!
# Which arguments are understood

Arguments are read from left to right, but what they say can be told from all of them together:
from those in front of the first `--` and from those behind it. Taking in one argument in front
changes which arguments may follow just as putting it in front of them does. So the arguments that
can be read are those that are understood, and the options are what they say.

## Main definitions

* `CommandLine.beforeSeparator`, `CommandLine.afterSeparator` — the arguments on the sides of `--`.
* `CommandLine.Understood`, `CommandLine.VersionAsked`, `CommandLine.inputsOf` — which arguments are
  understood, and what they say.
* `CommandLine.Progress.Takes` — what taking in one argument leads to.
* `CommandLine.Progress.Admits`, `CommandLine.Progress.after` — which arguments may follow on what has
  been read, and what has been read at their end.
-/

namespace DiagnosticDigest.CommandLine

/-! ## What arguments say together -/

/-- The arguments in front of the first `--`, or all of them if there is none. -/
def beforeSeparator (arguments : List String) : List String :=
  arguments.takeWhile (· ≠ "--")

/-- The arguments behind the first `--`. -/
def afterSeparator (arguments : List String) : List String :=
  (arguments.dropWhile (· ≠ "--")).tail

/-- Arguments that the program understands. In front of `--` each one asks for the version or names an
input, the version is asked for at most once, and no input behind `--` is empty. -/
@[mk_iff]
structure Understood (arguments : List String) : Prop where
  known : ∀ argument ∈ beforeSeparator arguments, AsksVersion argument ∨ NamesInput argument
  once : (beforeSeparator arguments).countP AsksVersion ≤ 1
  named : ∀ argument ∈ afterSeparator arguments, argument ≠ ""

/-- Whether one of the arguments in front of `--` asks for the version. -/
def VersionAsked (arguments : List String) : Prop :=
  ∃ argument ∈ beforeSeparator arguments, AsksVersion argument

instance : DecidablePred Understood :=
  fun arguments => decidable_of_iff _ (understood_iff arguments).symm

instance : DecidablePred VersionAsked :=
  fun _ => inferInstanceAs (Decidable (∃ _ ∈ _, _))

/-- The inputs that arguments name: those in front of `--`, and all that stands behind it. -/
def inputsOf (arguments : List String) : List String :=
  (beforeSeparator arguments).filter NamesInput ++ afterSeparator arguments

/-! ## One argument more -/

section Cons

variable {argument : String} {rest : List String}

theorem beforeSeparator_cons (h : argument ≠ "--") :
    beforeSeparator (argument :: rest) = argument :: beforeSeparator rest := by
  simp [beforeSeparator, h]

theorem afterSeparator_cons (h : argument ≠ "--") :
    afterSeparator (argument :: rest) = afterSeparator rest := by
  simp [afterSeparator, h]

theorem not_versionAsked_iff_countP {arguments : List String} :
    ¬ VersionAsked arguments ↔ (beforeSeparator arguments).countP AsksVersion = 0 := by
  simp [VersionAsked, List.countP_eq_zero]

theorem understood_nil : Understood [] := by
  constructor <;> simp [beforeSeparator, afterSeparator]

theorem understood_separator_iff : Understood ("--" :: rest) ↔ "" ∉ rest := by
  constructor
  · rintro ⟨-, -, hnamed⟩ hmem
    exact hnamed "" (by simpa [afterSeparator] using hmem) rfl
  · intro hmem
    refine ⟨by simp [beforeSeparator], by simp [beforeSeparator], ?_⟩
    rintro argument hargument rfl
    exact hmem (by simpa [afterSeparator] using hargument)

theorem not_versionAsked_separator : ¬ VersionAsked ("--" :: rest) := by
  simp [VersionAsked, beforeSeparator]

theorem inputsOf_separator : inputsOf ("--" :: rest) = rest := by
  simp [inputsOf, beforeSeparator, afterSeparator]

/-- An argument in front of `--` must say something, and what follows on the version must not ask for
it again. -/
theorem understood_cons_iff (h : argument ≠ "--") :
    Understood (argument :: rest) ↔ (AsksVersion argument ∨ NamesInput argument) ∧
      Understood rest ∧ (AsksVersion argument → ¬ VersionAsked rest) := by
  rw [understood_iff, understood_iff, beforeSeparator_cons h, afterSeparator_cons h,
    List.forall_mem_cons, not_versionAsked_iff_countP]
  by_cases hasks : AsksVersion argument
  · rw [List.countP_cons_of_pos (by simpa using hasks)]
    constructor
    · rintro ⟨⟨hmeant, hknown⟩, honce, hnamed⟩
      exact ⟨hmeant, ⟨hknown, by omega, hnamed⟩, fun _ => by omega⟩
    · rintro ⟨hmeant, ⟨hknown, -, hnamed⟩, hnone⟩
      have hnone := hnone hasks
      exact ⟨⟨hmeant, hknown⟩, by omega, hnamed⟩
  · rw [List.countP_cons_of_neg (by simpa using hasks)]
    simp only [hasks, false_implies, and_true, and_assoc]

theorem understood_version_iff (h : AsksVersion argument) :
    Understood (argument :: rest) ↔ Understood rest ∧ ¬ VersionAsked rest := by
  simp [understood_cons_iff h.ne_separator, h]

theorem understood_input_iff (h : NamesInput argument) :
    Understood (argument :: rest) ↔ Understood rest := by
  simp [understood_cons_iff h.ne_separator, h, h.not_asksVersion]

theorem not_understood_empty : ¬ Understood ("" :: rest) := by
  have hmeant : ¬ (AsksVersion "" ∨ NamesInput "") := by decide
  rw [understood_cons_iff (by decide)]
  exact fun h => hmeant h.1

theorem versionAsked_cons_iff (h : argument ≠ "--") :
    VersionAsked (argument :: rest) ↔ AsksVersion argument ∨ VersionAsked rest := by
  simp [VersionAsked, beforeSeparator_cons h]

theorem versionAsked_version (h : AsksVersion argument) : VersionAsked (argument :: rest) :=
  (versionAsked_cons_iff h.ne_separator).mpr (.inl h)

theorem versionAsked_input_iff (h : NamesInput argument) :
    VersionAsked (argument :: rest) ↔ VersionAsked rest := by
  simp [versionAsked_cons_iff h.ne_separator, h.not_asksVersion]

theorem inputsOf_version (h : AsksVersion argument) :
    inputsOf (argument :: rest) = inputsOf rest := by
  simp [inputsOf, beforeSeparator_cons h.ne_separator, afterSeparator_cons h.ne_separator,
    h.not_namesInput]

theorem inputsOf_input (h : NamesInput argument) :
    inputsOf (argument :: rest) = argument :: inputsOf rest := by
  simp [inputsOf, beforeSeparator_cons h.ne_separator, afterSeparator_cons h.ne_separator, h]

end Cons

/-! ## Taking in one argument -/

namespace Flag

theorem eq_longName_of_ofLongName? {name : String} {flag : Flag}
    (h : ofLongName? name = some flag) : name = flag.longName := by
  unfold ofLongName? at h
  split_ifs at h <;> (cases h; assumption)

theorem eq_of_ofLetter?_eq_version {letter : Char} (h : ofLetter? letter = some version) :
    letter = 'v' := by
  unfold ofLetter? at h
  split_ifs at h
  · assumption
  · cases h

end Flag

namespace Progress

variable {p q : Progress} {argument : String}

theorem check_eq_ok_iff :
    p.check = .ok q ↔ "" ∉ p.unchecked ∧ q = ⟨p.version, p.checked ++ p.unchecked, []⟩ := by
  by_cases hnamed : "" ∈ p.unchecked <;> simp [check, hnamed, eq_comm]

/-- Of the flags only the version can be taken in, and only once. -/
theorem addFlag_eq_ok_iff {flag : Flag} {long : Bool} :
    p.addFlag flag long = .ok q ↔
      flag = .version ∧ p.version = false ∧ "" ∉ p.unchecked ∧
        q = ⟨true, p.checked ++ p.unchecked, []⟩ := by
  rw [addFlag]
  by_cases hnamed : "" ∈ p.unchecked
  · simp [check, hnamed]
  · cases flag <;> cases hversion : p.version <;> simp [check, hnamed, hversion, eq_comm]

theorem exists_of_addLetters_cons {letter : Char} {letters : List Char}
    (h : p.addLetters (letter :: letters) = .ok q) :
    ∃ flag next, Flag.ofLetter? letter = some flag ∧ p.addFlag flag false = .ok next ∧
      next.addLetters letters = .ok q := by
  rw [addLetters] at h
  cases hflag : Flag.ofLetter? letter with
  | none => simp [hflag] at h
  | some flag =>
    cases hnext : p.addFlag flag false with
    | error stop => simp [hflag, hnext] at h
    | ok next => exact ⟨flag, next, rfl, hnext, by simpa [hflag, hnext] using h⟩

/-- What an argument in front of `--` can lead to: it asks for the version, for the first time and
behind inputs none of which is empty, or it is kept as an input that is checked later. -/
inductive Takes (p : Progress) (argument : String) : Progress → Prop
  | version (hasks : AsksVersion argument) (hfirst : p.version = false)
      (hnamed : "" ∉ p.unchecked) : Takes p argument ⟨true, p.checked ++ p.unchecked, []⟩
  | input (hinput : argument = "" ∨ NamesInput argument) : Takes p argument (p.addInput argument)

theorem takes_of_addFlag {flag : Flag} {long : Bool} (h : p.addFlag flag long = .ok q)
    (hasks : flag = .version → AsksVersion argument) : p.Takes argument q := by
  obtain ⟨hflag, hfirst, hnamed, rfl⟩ := addFlag_eq_ok_iff.mp h
  exact .version (hasks hflag) hfirst hnamed

theorem takes_of_addLong {name : String} {value : Option String}
    (hform : Argument.ofChars argument.toList = .long name value)
    (h : p.addLong name value = .ok q) : p.Takes argument q := by
  cases hflag : Flag.ofLongName? name with
  | none => simp [addLong, hflag] at h
  | some flag =>
    cases value with
    | some value => simp [addLong, hflag] at h
    | none =>
      have hadd : p.addFlag flag true = .ok q := by simpa [addLong, hflag] using h
      refine takes_of_addFlag hadd ?_
      rintro rfl
      right
      rw [← String.toList_inj, Argument.eq_of_ofChars_eq_long hform,
        Flag.eq_longName_of_ofLongName? hflag]
      rfl

/-- A cluster that can be taken in has one letter, since a second one could only ask for the version
again. -/
theorem takes_of_addLetters {letters : List Char}
    (hform : Argument.ofChars argument.toList = .letters letters)
    (h : p.addLetters letters = .ok q) : p.Takes argument q := by
  obtain ⟨htext, hletters⟩ := Argument.eq_of_ofChars_eq_letters hform
  obtain ⟨letter, letters, rfl⟩ := List.exists_cons_of_ne_nil hletters
  obtain ⟨flag, next, hflag, hadd, hrest⟩ := exists_of_addLetters_cons h
  cases letters with
  | nil =>
    obtain rfl : next = q := by simpa [addLetters] using hrest
    refine takes_of_addFlag hadd ?_
    rintro rfl
    left
    rw [← String.toList_inj, htext, Flag.eq_of_ofLetter?_eq_version hflag]
    rfl
  | cons second letters =>
    obtain ⟨-, -, -, rfl⟩ := addFlag_eq_ok_iff.mp hadd
    obtain ⟨again, _, -, hadd', -⟩ := exists_of_addLetters_cons hrest
    obtain ⟨-, hfirst, -⟩ := addFlag_eq_ok_iff.mp hadd'
    contradiction

end Progress

/-! ## Reading -/

section Reading

variable {p q : Progress} {argument : String} {arguments rest : List String}

theorem parseFrom_separator :
    parseFrom p ("--" :: rest) = Progress.check { p with unchecked := p.unchecked ++ rest } := by
  rw [parseFrom]
  rfl

/-- Reading goes on from what an argument leads to. -/
theorem Progress.Takes.parseFrom_eq (h : p.Takes argument q) :
    parseFrom p (argument :: rest) = parseFrom q rest := by
  cases h with
  | version hasks hfirst hnamed =>
    have hadd : ∀ long, p.addFlag .version long = .ok ⟨true, p.checked ++ p.unchecked, []⟩ :=
      fun long => addFlag_eq_ok_iff.mpr ⟨rfl, hfirst, hnamed, rfl⟩
    rcases hasks with rfl | rfl
    · have hform : Argument.ofChars "-v".toList = .letters ['v'] := by decide
      rw [parseFrom, hform]
      simp [addLetters, Flag.ofLetter?, hadd]
    · have hform : Argument.ofChars "--version".toList = .long "version" none := by decide
      rw [parseFrom, hform]
      simp [addLong, Flag.ofLongName?, hadd]
  | input hinput =>
    rw [parseFrom, Argument.ofChars_toList_eq_input_iff.mpr hinput]

/-- What reading takes in of a first argument in front of `--`. -/
theorem exists_takes_of_parseFrom (hfront : argument ≠ "--")
    (h : parseFrom p (argument :: rest) = .ok q) : ∃ next, p.Takes argument next := by
  cases hform : Argument.ofChars argument.toList with
  | separator =>
    have htext : argument.toList = "--".toList := Argument.eq_of_ofChars_eq_separator hform
    exact absurd (String.toList_inj.mp htext) hfront
  | input => exact ⟨_, .input (Argument.ofChars_toList_eq_input_iff.mp hform)⟩
  | long name value =>
    cases hadd : p.addLong name value with
    | error stop => simp [parseFrom, hform, hadd] at h
    | ok next => exact ⟨next, Progress.takes_of_addLong hform hadd⟩
  | letters letters =>
    cases hadd : p.addLetters letters with
    | error stop => simp [parseFrom, hform, hadd] at h
    | ok next => exact ⟨next, Progress.takes_of_addLetters hform hadd⟩

/-- A successful reading takes in a first argument in front of `--` and then reads the rest. -/
theorem parseFrom_cons_eq_ok_iff (hfront : argument ≠ "--") :
    parseFrom p (argument :: rest) = .ok q ↔
      ∃ next, p.Takes argument next ∧ parseFrom next rest = .ok q := by
  constructor
  · intro h
    obtain ⟨next, htakes⟩ := exists_takes_of_parseFrom hfront h
    exact ⟨next, htakes, htakes.parseFrom_eq ▸ h⟩
  · rintro ⟨next, htakes, hrest⟩
    rw [htakes.parseFrom_eq, hrest]

/-- What lets arguments follow on what has been read: they are understood, no input so far is empty,
and they do not ask for the version if it was asked for before. -/
@[mk_iff]
structure Progress.Admits (p : Progress) (arguments : List String) : Prop where
  understood : Understood arguments
  named : "" ∉ p.unchecked
  once : p.version = true → ¬ VersionAsked arguments

/-- What has been read at the end of arguments that may follow. -/
def Progress.after (p : Progress) (arguments : List String) : Progress :=
  ⟨p.version || VersionAsked arguments, p.checked ++ (p.unchecked ++ inputsOf arguments), []⟩

theorem Progress.Admits.exists_takes (h : p.Admits (argument :: rest)) (hfront : argument ≠ "--") :
    ∃ next, p.Takes argument next := by
  rcases ((understood_cons_iff hfront).mp h.understood).1 with hasks | hinput
  · have hfirst : p.version = false := by
      by_contra hversion
      exact h.once (by simpa using hversion) (versionAsked_version hasks)
    exact ⟨_, .version hasks hfirst h.named⟩
  · exact ⟨_, .input (.inr hinput)⟩

/-- Taking in an argument admits exactly what may follow on it. -/
theorem Progress.Takes.admits_iff (h : p.Takes argument q) :
    q.Admits rest ↔ p.Admits (argument :: rest) := by
  rw [Progress.admits_iff, Progress.admits_iff]
  cases h with
  | version hasks hfirst hnamed => simp [understood_version_iff hasks, hfirst, hnamed]
  | input hinput =>
    rcases hinput with rfl | hinput
    · -- an empty argument is kept for now, but nothing passes behind it
      simp [addInput, not_understood_empty]
    · have hnotempty : "" ≠ argument := hinput.ne_empty.symm
      simp [addInput, understood_input_iff hinput, versionAsked_input_iff hinput, hnotempty]

theorem Progress.Takes.after_eq (h : p.Takes argument q) (hnotempty : argument ≠ "") :
    q.after rest = p.after (argument :: rest) := by
  cases h with
  | version hasks => simp [after, versionAsked_version hasks, inputsOf_version hasks]
  | input hinput =>
    have hinput : NamesInput argument := hinput.resolve_left hnotempty
    simp [after, addInput, versionAsked_input_iff hinput, inputsOf_input hinput]

theorem Progress.Admits.ne_empty (h : p.Admits (argument :: rest)) : argument ≠ "" := by
  rintro rfl
  exact not_understood_empty h.understood

/-- Reading on succeeds exactly with arguments that may follow, and takes in all that they say. -/
theorem parseFrom_eq_ok_iff :
    parseFrom p arguments = .ok q ↔ p.Admits arguments ∧ q = p.after arguments := by
  induction arguments generalizing p with
  | nil =>
    rw [parseFrom, Progress.check_eq_ok_iff, Progress.admits_iff]
    simp [understood_nil, Progress.after, VersionAsked, inputsOf, beforeSeparator, afterSeparator]
  | cons argument rest ih =>
    by_cases hfront : argument = "--"
    · subst hfront
      rw [parseFrom_separator, Progress.check_eq_ok_iff, Progress.admits_iff]
      simp [understood_separator_iff, Progress.after, not_versionAsked_separator,
        inputsOf_separator, and_comm]
    · -- what one argument leads to admits the rest just if the whole was admitted
      rw [parseFrom_cons_eq_ok_iff hfront]
      constructor
      · rintro ⟨next, htakes, hrest⟩
        obtain ⟨hadmits, rfl⟩ := ih.mp hrest
        have hadmits : p.Admits (argument :: rest) := htakes.admits_iff.mp hadmits
        exact ⟨hadmits, htakes.after_eq hadmits.ne_empty⟩
      · rintro ⟨hadmits, rfl⟩
        obtain ⟨next, htakes⟩ := hadmits.exists_takes hfront
        refine ⟨next, htakes, ih.mpr ⟨htakes.admits_iff.mpr hadmits, ?_⟩⟩
        exact (htakes.after_eq hadmits.ne_empty).symm

/-- Arguments are read exactly if they are understood, and what they ask for is then what they say. -/
theorem parse_eq_ok_iff {options : Options} :
    parse arguments = .ok options ↔
      Understood arguments ∧ options = ⟨decide (VersionAsked arguments), inputsOf arguments⟩ := by
  have hstart : Progress.start.Admits arguments ↔ Understood arguments := by
    simp [Progress.admits_iff, Progress.start]
  rw [parse]
  cases hparse : parseFrom Progress.start arguments with
  | error stop =>
    have hnot : ¬ Understood arguments := by
      intro hunderstood
      have hread := parseFrom_eq_ok_iff.mpr ⟨hstart.mpr hunderstood, rfl⟩
      rw [hparse] at hread
      contradiction
    simp [hnot]
  | ok p =>
    obtain ⟨hadmits, rfl⟩ := parseFrom_eq_ok_iff.mp hparse
    simp [hstart.mp hadmits, Progress.after, Progress.start, eq_comm]

end Reading

/-! ## Runs -/

section Runs

variable {arguments : List String}

/-- Behind the name of the subcommand a run reads all arguments. -/
theorem run_subcommand_of_understood (h : Understood arguments) (files : Files) (stdin : Source)
    (stdout : Sink) :
    Program.run files stdin stdout ("ediag" :: arguments) =
      if VersionAsked arguments then Program.printVersion stdout
      else Program.digest files stdin stdout (inputsOf arguments) := by
  have hparse := parse_eq_ok_iff.mpr ⟨h, rfl⟩
  rw [Program.run, withoutSubcommand, if_pos rfl, hparse]
  simp

theorem run_subcommand_of_stop {reason : Stop} (h : parse arguments = .error reason)
    (files : Files) (stdin : Source) (stdout : Sink) :
    Program.run files stdin stdout ("ediag" :: arguments) = Program.stop stdout reason := by
  rw [Program.run, withoutSubcommand, if_pos rfl, h]

/-- Arguments are read exactly if they are understood: each of those in front of the first `--` asks
for the version or names an input, the version is asked for at most once, and none behind is empty.
Then the version is asked for if one of them does so, and the inputs are those named in front and
all that stands behind, in order. A run with the name of the subcommand in front reads exactly the
arguments behind it, among which the same name is one more input. -/
theorem parse_and_run (arguments : List String) :
    ((∃ options, parse arguments = .ok options) ↔ Understood arguments) ∧
    (∀ options, parse arguments = .ok options →
      (options.version = true ↔ VersionAsked arguments) ∧
        options.inputs = inputsOf arguments) ∧
    ∀ (files : Files) (stdin : Source) (stdout : Sink),
      (Understood arguments →
        Program.run files stdin stdout ("ediag" :: arguments) =
          (if VersionAsked arguments then Program.printVersion stdout
          else Program.digest files stdin stdout (inputsOf arguments)) ∧
        Program.run files stdin stdout ("ediag" :: "ediag" :: arguments) =
          if VersionAsked arguments then Program.printVersion stdout
          else Program.digest files stdin stdout ("ediag" :: inputsOf arguments)) ∧
      (¬ Understood arguments → ∃ reason, parse arguments = .error reason ∧
        Program.run files stdin stdout ("ediag" :: arguments) = Program.stop stdout reason) := by
  refine ⟨⟨?_, ?_⟩, ?_, fun files stdin stdout => ⟨?_, ?_⟩⟩
  · rintro ⟨options, hparse⟩
    exact (parse_eq_ok_iff.mp hparse).1
  · intro hunderstood
    exact ⟨_, parse_eq_ok_iff.mpr ⟨hunderstood, rfl⟩⟩
  · intro options hparse
    obtain ⟨-, rfl⟩ := parse_eq_ok_iff.mp hparse
    exact ⟨decide_eq_true_iff, rfl⟩
  · intro hunderstood
    have hinput : NamesInput "ediag" := by decide
    refine ⟨run_subcommand_of_understood hunderstood files stdin stdout, ?_⟩
    -- the second name is an argument like any other
    rw [run_subcommand_of_understood ((understood_input_iff hinput).mpr hunderstood),
      inputsOf_input hinput]
    simp only [versionAsked_input_iff hinput]
  · intro hnot
    cases hparse : parse arguments with
    | error reason => exact ⟨reason, rfl, run_subcommand_of_stop hparse files stdin stdout⟩
    | ok options => exact absurd (parse_eq_ok_iff.mp hparse).1 hnot

/-- Only the first name of the subcommand is dropped, and behind the first `--` all arguments are
inputs, a flag and a second `--` among them. -/
theorem parse_and_run_separators :
    Understood ["a.jsonl", "ediag", "-", "--", "--version", "--"] ∧
      (∃ options, parse ["a.jsonl", "ediag", "-", "--", "--version", "--"] = .ok options) ∧
      Program.run (fun _ => .error .noSuchFile) [] Sink.unlimited
          ["ediag", "ediag", "a.jsonl", "ediag", "-", "--", "--version", "--"] =
        Program.digest (fun _ => .error .noSuchFile) [] Sink.unlimited
          ["ediag", "a.jsonl", "ediag", "-", "--version", "--"] := by
  have hunderstood : Understood ["a.jsonl", "ediag", "-", "--", "--version", "--"] := by decide
  obtain ⟨hread, -, hrun⟩ := parse_and_run ["a.jsonl", "ediag", "-", "--", "--version", "--"]
  refine ⟨hunderstood, hread.mpr hunderstood, ?_⟩
  rw [((hrun _ _ _).1 hunderstood).2, if_neg (by decide)]
  rfl

end Runs

end DiagnosticDigest.CommandLine
