import DiagnosticDigest.Proofs.Blank
import DiagnosticDigest.Proofs.Digest
import DiagnosticDigest.Proofs.Records
import DiagnosticDigest.Proofs.Report.Print
import Mathlib.Logic.Relation

/-!
# What a report does not show

A report shows which cores the lines of its stream have, and nothing else of them. Neither their order
nor their repetition, nor the blanks around them, nor lines without a core or without a text can be
told from it.

## Main definitions

* `Source.SameReport` — streams with one report.
* `Intake.Matched` — lines whose cores are all found in other lines.
* `Intake.Edit`, `Intake.Joined` — changes to the lines of a stream, and the streams of some lines.
-/

namespace DiagnosticDigest

open Relation (EqvGen)

/-- Both streams are read to their ends and give byte for byte the same report. -/
def Source.SameReport (a b : Source) : Prop :=
  ∃ d other, Digest.ofSource a = .ok d ∧ Digest.ofSource b = .ok other ∧
    Report.bytes d = Report.bytes other

namespace Intake

/-- Every line that is a text with more than blanks in it has a counterpart among other lines: one with
the same core. -/
def Matched (lines others : List (List UInt8)) : Prop :=
  ∀ text, Utf8.encode text ∈ lines → ¬ Text.Blank text →
    ∃ other, Utf8.encode other ∈ others ∧ Text.SameCore text other

/-- A line with blanks put around it, whether or not it is a text. -/
def PaddedLine (line padded : List UInt8) : Prop :=
  ∃ before after, Text.Blank before ∧ Text.Blank after ∧
    padded = Utf8.encode before ++ line ++ Utf8.encode after

/-- A change to the lines of a stream, which are given without their line feeds. Lines are put in front
only, since they can be reordered then. -/
inductive Edit : List (List UInt8) → List (List UInt8) → Prop
  | reorder {lines others : List (List UInt8)} (h : lines.Perm others) : Edit lines others
  | again {line : List UInt8} {lines : List (List UInt8)} (h : line ∈ lines) :
      Edit lines (line :: lines)
  | pad {lines others : List (List UInt8)} (h : List.Forall₂ PaddedLine lines others) :
      Edit lines others
  | blank {text : String} (h : Text.Blank text) (lines : List (List UInt8)) :
      Edit lines (Utf8.encode text :: lines)
  | undecodable {line : List UInt8} (h : ∀ text, Utf8.encode text ≠ line)
      (lines : List (List UInt8)) : Edit lines (line :: lines)

/-- Bytes that consist of some lines, each with a line feed behind it, which the last one may lack. -/
def Joined (lines : List (List UInt8)) (bytes : List UInt8) : Prop :=
  bytes = lines.flatMap (· ++ [lineFeed]) ∨ bytes ++ [lineFeed] = lines.flatMap (· ++ [lineFeed])

end Intake

/-! ## Lines -/

namespace Entry

theorem ofLine_of_sameCore {text other : String} (h : Text.SameCore text other) :
    ofLine text = ofLine other := by
  rw [ofLine, ofLine, Text.trim_eq_of_sameCore h]

theorem ofLine_of_blank {text : String} (h : Text.Blank text) : ofLine text = .error .blank := by
  rw [ofLine, Text.trim_of_blank h]
  rfl

theorem ofBytes?_of_undecodable {line : List UInt8} (h : ∀ text, Utf8.encode text ≠ line) :
    ofBytes? line = none := by
  rw [Option.eq_none_iff_forall_ne_some]
  intro e he
  obtain ⟨text, htext, -⟩ := ofBytes?_eq_some_iff.mp he
  exact h text htext

theorem ofBytes?_of_blank {text : String} (h : Text.Blank text) :
    ofBytes? (Utf8.encode text) = none := by
  rw [Option.eq_none_iff_forall_ne_some]
  intro e he
  obtain ⟨other, hother, hline⟩ := ofBytes?_eq_some_iff.mp he
  rw [Utf8.encode_injective hother, ofLine_of_blank h] at hline
  contradiction

/-- Blanks around a line leave its entry as it is. They neither break a text nor make one, since
cutting them off a text leaves a text. -/
theorem ofBytes?_padded {line padded : List UInt8} (h : Intake.PaddedLine line padded) :
    ofBytes? padded = ofBytes? line := by
  obtain ⟨before, after, hbefore, hafter, rfl⟩ := h
  have hcore : ∀ core, Text.SameCore (before ++ core ++ after) core := fun core =>
    ⟨core, ⟨before, after, hbefore, hafter, rfl⟩, ⟨"", "", by decide, by decide, by simp⟩⟩
  ext e
  rw [ofBytes?_eq_some_iff, ofBytes?_eq_some_iff]
  constructor
  · rintro ⟨text, htext, he⟩
    have hcut : ∃ back, Utf8.encode back = line ++ Utf8.encode after :=
      (Utf8.exists_encode_iff_of_append (htext.trans (List.append_assoc _ _ _))).mp ⟨before, rfl⟩
    obtain ⟨back, hback⟩ := hcut
    obtain ⟨core, rfl⟩ := (Utf8.exists_encode_iff_of_append hback).mpr ⟨after, rfl⟩
    have hwhole : text = before ++ core ++ after := by
      apply Utf8.encode_injective
      rw [htext, Utf8.encode_append, Utf8.encode_append]
    rw [hwhole, ofLine_of_sameCore (hcore core)] at he
    exact ⟨core, rfl, he⟩
  · rintro ⟨core, rfl, he⟩
    refine ⟨before ++ core ++ after, ?_, ?_⟩
    · rw [Utf8.encode_append, Utf8.encode_append]
    · rw [ofLine_of_sameCore (hcore core), he]

theorem ofBytes?_append_lineFeed (line : List UInt8) :
    ofBytes? (line ++ [Intake.lineFeed]) = ofBytes? line :=
  ofBytes?_padded ⟨"", "\n", by decide, by decide, rfl⟩

end Entry

namespace Intake

/-! ## Matched lines -/

/-- The entries of lines are found among those of all lines that they are matched with. -/
theorem mem_entriesOf_of_matched {bytes others : List UInt8}
    (h : Matched (linesOf bytes) (linesOf others)) {e : Entry} (he : e ∈ entriesOf bytes) :
    e ∈ entriesOf others := by
  obtain ⟨text, htext, hline⟩ := mem_entriesOf.mp he
  have hblank : ¬ Text.Blank text := by
    intro hblank
    rw [Entry.ofLine_of_blank hblank] at hline
    contradiction
  obtain ⟨other, hother, hcore⟩ := h text htext hblank
  rw [Entry.ofLine_of_sameCore hcore] at hline
  exact mem_entriesOf.mpr ⟨other, hother, hline⟩

/-! ## Edits -/

theorem filterMap_ofBytes?_padded {lines others : List (List UInt8)}
    (h : List.Forall₂ PaddedLine lines others) :
    lines.filterMap Entry.ofBytes? = others.filterMap Entry.ofBytes? := by
  induction h with
  | nil => rfl
  | cons hline _ ih => rw [List.filterMap_cons, List.filterMap_cons, Entry.ofBytes?_padded hline, ih]

/-- No edit adds an entry or takes one away. -/
theorem Edit.mem_entries_iff {lines others : List (List UInt8)} (h : Edit lines others) (e : Entry) :
    e ∈ lines.filterMap Entry.ofBytes? ↔ e ∈ others.filterMap Entry.ofBytes? := by
  cases h with
  | reorder h => exact (h.filterMap Entry.ofBytes?).mem_iff
  | again h =>
    simp only [List.mem_filterMap, List.mem_cons, exists_eq_or_imp]
    constructor
    · exact .inr
    · rintro (he | he)
      · exact ⟨_, h, he⟩
      · exact he
  | pad h => rw [filterMap_ofBytes?_padded h]
  | blank h lines => rw [List.filterMap_cons_none (Entry.ofBytes?_of_blank h)]
  | undecodable h lines => rw [List.filterMap_cons_none (Entry.ofBytes?_of_undecodable h)]

/-- Nor do any edits, undone or not, one after the other. -/
theorem mem_entries_iff_of_edits {lines others : List (List UInt8)}
    (h : EqvGen Edit lines others) (e : Entry) :
    e ∈ lines.filterMap Entry.ofBytes? ↔ e ∈ others.filterMap Entry.ofBytes? := by
  induction h with
  | rel lines others h => exact h.mem_entries_iff e
  | refl lines => rfl
  | symm lines others _ ih => exact ih.symm
  | trans lines between others _ _ ihfirst ihsecond => exact ihfirst.trans ihsecond

/-! ## Streams of lines -/

/-- A line feed at the end adds no entry: it ends an open line, or it is a blank line. -/
theorem entriesOf_append_lineFeed (bytes : List UInt8) :
    entriesOf (bytes ++ [lineFeed]) = entriesOf bytes := by
  obtain ⟨closed, rest, rfl, hclosed, hrest⟩ := exists_closed_append bytes
  rw [List.append_assoc, entriesOf_append hclosed, entriesOf_append hclosed]
  congr 1
  rw [entriesOf, linesOf_single hrest, List.filterMap_cons, Entry.ofBytes?_append_lineFeed]
  by_cases hne : rest = []
  · subst hne
    rfl
  · rw [entriesOf, linesOf_open hne hrest, List.filterMap_cons]

/-- A stream of lines gives the entries of the lines, with or without a line feed at its end. -/
theorem entriesOf_of_joined {lines : List (List UInt8)} {bytes : List UInt8}
    (h : Joined lines bytes) (hopen : ∀ line ∈ lines, lineFeed ∉ line) :
    entriesOf bytes = lines.filterMap Entry.ofBytes? := by
  have hjoined : entriesOf (lines.flatMap (· ++ [lineFeed])) = lines.filterMap Entry.ofBytes? := by
    rw [entriesOf, linesOf_flatMap hopen, List.filterMap_map]
    congr 1
    funext line
    exact Entry.ofBytes?_append_lineFeed line
  rcases h with rfl | h
  · exact hjoined
  · rw [← entriesOf_append_lineFeed, h, hjoined]

end Intake

/-! ## Reports -/

theorem Source.sameReport_of_entries {a b : Source} (ha : a.Unfailing) (hb : b.Unfailing)
    (h : ∀ e, e ∈ Intake.entriesOf a.bytes ↔ e ∈ Intake.entriesOf b.bytes) : a.SameReport b := by
  refine ⟨_, _, Digest.ofSource_unfailing ha, Digest.ofSource_unfailing hb, ?_⟩
  rw [Digest.ofEntries_congr h]

/-- Streams give the same report if each line with more than blanks in it has a counterpart in the
other stream that differs by the blanks around it. So a report does not change if lines are
reordered, repeated or padded, each in its own way, be it with a carriage return, or if blank lines
and lines that are no text are put in or left out. -/
theorem report_of_cores (a b : Source) (ha : a.Unfailing) (hb : b.Unfailing) :
    (Intake.Matched (Intake.linesOf a.bytes) (Intake.linesOf b.bytes) →
      Intake.Matched (Intake.linesOf b.bytes) (Intake.linesOf a.bytes) → a.SameReport b) ∧
    ∀ lines others, EqvGen Intake.Edit lines others →
      (∀ line ∈ lines, Intake.lineFeed ∉ line) → (∀ line ∈ others, Intake.lineFeed ∉ line) →
      Intake.Joined lines a.bytes → Intake.Joined others b.bytes → a.SameReport b := by
  constructor
  · intro hforth hback
    apply Source.sameReport_of_entries ha hb
    intro e
    exact ⟨Intake.mem_entriesOf_of_matched hforth, Intake.mem_entriesOf_of_matched hback⟩
  · intro lines others hedits hlines hothers hjoined hjoinedOthers
    apply Source.sameReport_of_entries ha hb
    intro e
    rw [Intake.entriesOf_of_joined hjoined hlines, Intake.entriesOf_of_joined hjoinedOthers hothers]
    exact Intake.mem_entries_iff_of_edits hedits e

/-- A record on a line, and the same record with a carriage return and without a line feed, behind a
line that is no text. -/
theorem report_of_cores_carriage_return :
    ∃ core a b, core = Json.compact (Entry.record ⟨.warning, "b.rs", "2", "w"⟩) ∧
      a = Source.whole (Utf8.encode core ++ [Intake.lineFeed]) ∧
      b = Source.whole ([0xFF] ++ [Intake.lineFeed] ++ Utf8.encode (core ++ "\r")) ∧
      Intake.Matched (Intake.linesOf a.bytes) (Intake.linesOf b.bytes) ∧
      Intake.Matched (Intake.linesOf b.bytes) (Intake.linesOf a.bytes) ∧ a.SameReport b ∧
      ∃ lines others, EqvGen Intake.Edit lines others ∧ Intake.Joined lines a.bytes ∧
        Intake.Joined others b.bytes ∧ a.SameReport b := by
  have hopen := Entry.lineFeed_notMem_encode_compact (Entry.record ⟨.warning, "b.rs", "2", "w"⟩)
  refine ⟨_, _, _, rfl, rfl, rfl, ?_⟩
  generalize Json.compact (Entry.record ⟨.warning, "b.rs", "2", "w"⟩) = core at hopen ⊢
  obtain ⟨hmatched, hjoined⟩ := report_of_cores
    (Source.whole (Utf8.encode core ++ [Intake.lineFeed]))
    (Source.whole ([0xFF] ++ [Intake.lineFeed] ++ Utf8.encode (core ++ "\r")))
    (Source.unfailing_whole _) (Source.unfailing_whole _)
  simp only [Source.bytes_whole] at hmatched hjoined ⊢
  have hundecodable : ∀ text rest, Utf8.encode text ≠ 0xFF :: rest := by
    intro text rest htext
    have hdecode := Utf8.decode_eq_ok_iff.mpr htext
    revert hdecode
    exact nofun
  have hreturn : Utf8.encode (core ++ "\r") = Utf8.encode core ++ [13] := Utf8.encode_append _ _
  have hreturnOpen : Intake.lineFeed ∉ Utf8.encode (core ++ "\r") := by
    rw [hreturn, List.mem_append]
    exact not_or.mpr ⟨hopen, by decide⟩
  have hfirst : Intake.Joined [Utf8.encode core] (Utf8.encode core ++ [Intake.lineFeed]) :=
    .inl (by simp)
  have hsecond : Intake.Joined [[0xFF], Utf8.encode (core ++ "\r")]
      ([0xFF] ++ [Intake.lineFeed] ++ Utf8.encode (core ++ "\r")) := .inr (by simp)
  have hedits : EqvGen Intake.Edit [Utf8.encode core] [[0xFF], Utf8.encode (core ++ "\r")] :=
    .trans _ _ _ (.rel _ _ (.pad (.cons ⟨"", "\r", by decide, by decide, hreturn⟩ .nil)))
      (.rel _ _ (.undecodable (fun text => hundecodable text []) _))
  have hlines : Intake.linesOf (Utf8.encode core ++ [Intake.lineFeed]) =
      [Utf8.encode (core ++ "\n")] := by
    rw [Intake.linesOf_single hopen, Utf8.encode_append]
    rfl
  have hothers : Intake.linesOf ([0xFF] ++ [Intake.lineFeed] ++ Utf8.encode (core ++ "\r")) =
      [[0xFF, Intake.lineFeed], Utf8.encode (core ++ "\r")] := by
    rw [Intake.linesOf_append (Intake.closed_line [0xFF]), Intake.linesOf_single (by decide),
      Intake.linesOf_open (by simp [hreturn]) hreturnOpen]
    rfl
  have hfeed : Text.Padded core (core ++ "\n") := ⟨"", "\n", by decide, by decide, by simp⟩
  have hpadded : Text.Padded core (core ++ "\r") := ⟨"", "\r", by decide, by decide, by simp⟩
  rw [hlines, hothers] at hmatched ⊢
  have hforth : Intake.Matched [Utf8.encode (core ++ "\n")]
      [[0xFF, Intake.lineFeed], Utf8.encode (core ++ "\r")] := by
    intro text htext _
    obtain rfl := Utf8.encode_injective (List.mem_singleton.mp htext)
    exact ⟨core ++ "\r", by simp, core, hfeed, hpadded⟩
  have hback : Intake.Matched [[0xFF, Intake.lineFeed], Utf8.encode (core ++ "\r")]
      [Utf8.encode (core ++ "\n")] := by
    intro text htext _
    rcases List.mem_pair.mp htext with htext | htext
    · exact absurd htext (hundecodable text _)
    · obtain rfl := Utf8.encode_injective htext
      exact ⟨core ++ "\n", by simp, core, hpadded, hfeed⟩
  exact ⟨hforth, hback, hmatched hforth hback, _, _, hedits, hfirst, hsecond,
    hjoined _ _ hedits (by simpa using hopen) (by simpa using ⟨by decide, hreturnOpen⟩) hfirst
      hsecond⟩

end DiagnosticDigest
