import DiagnosticDigest.Proofs.Extraction
import DiagnosticDigest.Proofs.Json.Integers
import DiagnosticDigest.Proofs.Records

/-!
# Whole numbers in records

A whole number keeps its digits on the way from a record into an entry, up to the ends of what 64 bits
hold, and beyond them it does not come back as another whole number.

## Main definitions

* `Entry.spanTree?` — the first span of a record, as it is written.
* `Json.Written.greatest`, `Json.Written.recordOfGreatest` — the literal of the greatest integer that
  fits 64 bits, and a record that has it for its line.
-/

namespace DiagnosticDigest

namespace Json.Written

/-! ## The greatest integer -/

/-- The literal of the greatest integer that fits 64 bits. -/
def greatest : NumberText where
  negative := false
  whole := [1, 8, 4, 4, 6, 7, 4, 4, 0, 7, 3, 7, 0, 9, 5, 5, 1, 6, 1, 5]
  fraction := []
  exponent := none
  whole_ne_nil := by simp
  no_leading_zero := by simp

theorem denotes_greatest : greatest.Denotes 0xFFFFFFFFFFFFFFFF :=
  ⟨rfl, rfl, rfl, by decide⟩

theorem fits_greatest : Fits 0xFFFFFFFFFFFFFFFF := by
  rw [Fits]
  omega

/-- A record that has this literal for the line of its first span. -/
def recordOfGreatest : Tree :=
  .object (.bare (rawPieces "reason") (.string (rawPieces "compiler-message")))
    [.bare (rawPieces "message") (.object (.bare (rawPieces "level") (.string (rawPieces "error")))
      [.bare (rawPieces "spans") (.array (.bare
        (.object (.bare (rawPieces "line_start") (.number greatest)) [])) [])])]

theorem admitted_recordOfGreatest : recordOfGreatest.Admitted maxDepth := by
  have hunescaped : (["reason", "compiler-message", "message", "level", "error", "spans",
      "line_start"].all fun text => text.toList.all unescaped) = true := by
    decide
  have hstrings : ∀ text ∈ ["reason", "compiler-message", "message", "level", "error", "spans",
      "line_start"], Paired (rawPieces text) := fun text htext =>
    (spelled_rawPieces (List.all_eq_true.mp hunescaped text htext)).paired
  have hnumber : greatest.InRange :=
    ⟨_, NumberText.value_eq_integer_iff.mpr ⟨denotes_greatest, fits_greatest⟩⟩
  have htokens : recordOfGreatest.tokens = ["reason", "compiler-message", "message", "level",
      "error", "spans", "line_start"].map (fun text => Token.string (rawPieces text)) ++
        [.number greatest] := rfl
  refine ⟨by decide, ?_⟩
  rw [htokens, List.forall_mem_append, List.forall_mem_map, List.forall_mem_singleton]
  exact ⟨hstrings, hnumber⟩

end Json.Written

namespace Entry

open Json Written

/-- The first span of a record, as it is written. -/
def spanTree? (record : Tree) : Option Tree :=
  ((record.member? "message").bind (Tree.member? "spans")).bind Tree.firstItem?

variable {t u : Tree} {severity : Severity} {message : List (String × Json)} {span : Json}

theorem value_of_messageTree (hq : Qualifies t.value severity message span)
    (h : t.member? "message" = some u) : u.value = .object message := by
  obtain ⟨members, -, hvalue, -, hmessage, -⟩ := hq
  obtain ⟨_, hsame, hfind⟩ := Tree.find?_of_member? h
  rw [hvalue] at hsame
  cases hsame
  rw [hmessage] at hfind
  exact (Option.some.inj hfind).symm

/-- The first span as it is written is the one that the record qualifies with. -/
theorem value_of_spanTree? (hq : Qualifies t.value severity message span)
    (h : spanTree? t = some u) : u.value = span := by
  obtain ⟨spans, hspans, hfirst⟩ := Option.bind_eq_some_iff.mp h
  obtain ⟨messageTree, hmessage, hmember⟩ := Option.bind_eq_some_iff.mp hspans
  have hvalue := value_of_messageTree hq hmessage
  obtain ⟨-, more, -, -, -, -, harray⟩ := hq
  obtain ⟨_, hsame, hfind⟩ := Tree.find?_of_member? hmember
  rw [hvalue] at hsame
  cases hsame
  rw [harray] at hfind
  obtain ⟨_, hitems⟩ := Tree.value_of_firstItem? hfirst
  rw [hitems] at hfind
  cases hfind
  rfl

theorem asText_integer {n : NumberText} {z : Int} (h : n.Denotes z) :
    (Json.number (.integer z)).asText = n.toText := by
  rw [NumberText.toText, h.text_eq]
  simp [asText, compact, compactChars, numberText]

/-- A field that is written as the literal of an integer shows as that literal. -/
theorem fieldText_of_literal {n : NumberText} {z : Int} (hn : n.Denotes z) (hz : Fits z)
    {key : String} (h : u.member? key = some (.number n)) (default : String) :
    fieldText u.value key default = n.toText := by
  have hinteger : n.value = .integer z := by
    rw [NumberText.value, NumberText.value_eq_integer_iff.mpr ⟨hn, hz⟩]
  obtain ⟨members, hvalue, hfind⟩ := Tree.find?_of_member? h
  rw [Tree.value, hinteger] at hfind
  rw [fieldText, (field?_eq_some_iff (by simp)).mpr ⟨members, hvalue, hfind⟩]
  exact asText_integer hn

/-- A record that qualifies gives an entry that shows the literal of an integer wherever the record has
it for its line, its file name or its message. -/
theorem exists_entry_of_literal {n : NumberText} {z : Int} (hn : n.Denotes z) (hz : Fits z)
    (hq : Qualifies t.value severity message span) :
    ∃ e, ofRecord t.value = .ok e ∧
      ((spanTree? t).bind (Tree.member? "line_start") = some (.number n) →
        e.lineStart = n.toText) ∧
      ((spanTree? t).bind (Tree.member? "file_name") = some (.number n) →
        e.fileName = n.toText) ∧
      ((t.member? "message").bind (Tree.member? "message") = some (.number n) →
        e.message = n.toText) := by
  have hspan : ∀ key default, (spanTree? t).bind (Tree.member? key) = some (.number n) →
      fieldText span key default = n.toText := by
    intro key default h
    obtain ⟨s, hs, hfield⟩ := Option.bind_eq_some_iff.mp h
    rw [← value_of_spanTree? hq hs, fieldText_of_literal hn hz hfield]
  have hmessage : (t.member? "message").bind (Tree.member? "message") = some (.number n) →
      fieldText (.object message) "message" "" = n.toText := by
    intro h
    obtain ⟨m, hm, hfield⟩ := Option.bind_eq_some_iff.mp h
    rw [← value_of_messageTree hq hm, fieldText_of_literal hn hz hfield]
  exact ⟨_, hq.ofRecord_eq, hspan "line_start" "0", hspan "file_name" "unknown", hmessage⟩

theorem qualifies_recordOfGreatest :
    Qualifies recordOfGreatest.value .error
      (Members.ofPairs [("level", .string "error"), ("spans", .array [.object
        (Members.ofPairs [("line_start", .number greatest.value)])])])
      (.object (Members.ofPairs [("line_start", .number greatest.value)])) := by
  refine ⟨_, [], rfl, ?_, ?_, ?_, ?_⟩ <;> simp [Members.ofPairs, Members.find?_insert]
  all_goals rfl

/-- Integers never wrap. Each has one decimal literal. If it fits 64 bits, with a sign or without, the
literal is read as the integer, which is written as the literal, and a record that qualifies shows it
digit by digit wherever it has it for its line, its file name or its message. If it does not fit, the
literal is read as a double, or is out of range. -/
theorem integers_never_wrap (z : Int) :
    ∃ n : NumberText, (∀ m : NumberText, m.Denotes z ↔ m = n) ∧
      (Fits z →
        readRecord n.toText = .ok (.number (.integer z)) ∧
        compact (.number (.integer z)) = n.toText ∧
        ∀ (record : Tree) (text : String) (v : Json) (severity : Severity)
          (message : List (String × Json)) (span : Json), record.Writes text →
          readRecord text = .ok v → Qualifies v severity message span →
            ∃ e, ofText text = .ok e ∧
              ((spanTree? record).bind (Tree.member? "line_start") = some (.number n) →
                e.lineStart = n.toText) ∧
              ((spanTree? record).bind (Tree.member? "file_name") = some (.number n) →
                e.fileName = n.toText) ∧
              ((record.member? "message").bind (Tree.member? "message") = some (.number n) →
                e.message = n.toText)) ∧
      (¬ Fits z →
        (∃ x, readRecord n.toText = .ok (.number (.double x))) ∨
          ∃ fault, readRecord n.toText = .error (.malformed fault n.toText) ∧
            fault.cause = .numberOutOfRange) := by
  obtain ⟨n, hn⟩ := NumberText.exists_denotes z
  refine ⟨n, fun m => ⟨fun hm => hm.unique hn, fun h => h ▸ hn⟩, fun hz => ⟨?_, ?_, ?_⟩, fun hz => ?_⟩
  · exact readRecord_eq_ok_iff.mpr (parse_of_fits hn hz)
  · exact asText_integer hn
  · intro record text v severity message span hwrites hread hq
    obtain ⟨-, rfl⟩ := hwrites.parse_eq_ok_iff.mp (readRecord_eq_ok_iff.mp hread)
    rw [ofText, hread]
    exact exists_entry_of_literal hn hz hq
  · rcases parse_of_not_fits hn hz with ⟨x, hread⟩ | ⟨fault, hfault, hcause⟩
    · exact .inl ⟨x, readRecord_eq_ok_iff.mpr hread⟩
    · exact .inr ⟨fault, by rw [readRecord, hfault], hcause⟩

/-- The greatest integer of 64 bits shows digit by digit as the line of an entry; the next one is read as
no integer any more. -/
theorem integers_never_wrap_greatest :
    (∃ e, ofText ("\x7b\"reason\":\"compiler-message\",\"message\":\x7b\"level\":\"error\"," ++
        "\"spans\":[\x7b\"line_start\":18446744073709551615\x7d]\x7d\x7d") = .ok e ∧
      e.lineStart = "18446744073709551615") ∧
    ∀ z, readRecord "18446744073709551616" ≠ .ok (.number (.integer z)) := by
  constructor
  · obtain ⟨n, hn, hfits, -⟩ := integers_never_wrap 0xFFFFFFFFFFFFFFFF
    obtain rfl := (hn greatest).mp denotes_greatest
    obtain ⟨-, -, hrecord⟩ := hfits fits_greatest
    have hwrites : recordOfGreatest.Writes
        ("\x7b\"reason\":\"compiler-message\",\"message\":\x7b\"level\":\"error\"," ++
          "\"spans\":[\x7b\"line_start\":18446744073709551615\x7d]\x7d\x7d") :=
      ⟨.none, .none, by decide⟩
    obtain ⟨e, he, hline, -⟩ := hrecord recordOfGreatest _ _ _ _ _ hwrites
      (readRecord_eq_ok_iff.mpr (hwrites.parse_eq_ok_iff.mpr ⟨admitted_recordOfGreatest, rfl⟩))
      qualifies_recordOfGreatest
    exact ⟨e, he, (hline rfl).trans (by decide)⟩
  · obtain ⟨n, hn, -, hout⟩ := integers_never_wrap 0x10000000000000000
    have htext : n.toText = "18446744073709551616" := by
      rw [NumberText.toText, ((hn n).mpr rfl).text_eq]
      decide
    rw [htext] at hout
    intro z hz
    rcases hout (by rw [Fits]; omega) with ⟨x, hx⟩ | ⟨fault, hx, -⟩ <;> simp [hz] at hx

end Entry

end DiagnosticDigest
