import DiagnosticDigest.Proofs.Json.Ordered
import DiagnosticDigest.Proofs.Json.Respelling
import DiagnosticDigest.Proofs.Records

/-!
# The spelling of a record

Records that are spelled differently are one record: the reader gives the same value for them, whose
compact text has the keys of every object in order, and the same entry.

## Main definitions

* `Json.Written.plainSpelling`, `Json.Written.escapedSpelling` — two spellings of an object.
-/

namespace DiagnosticDigest

namespace Json.Written

/-! ## Two spellings of an object -/

/-- An object without blanks or escapes, with two members under one key. -/
def plainSpelling : Tree :=
  .object (.bare (rawPieces "a") (.bool true))
    [.bare (rawPieces "a") .null, .bare (rawPieces "b") (.string (rawPieces "😀"))]

/-- The number of the letter `b`. -/
def letterCode : Code :=
  ⟨⟨'0', by decide⟩, ⟨'0', by decide⟩, ⟨'6', by decide⟩, ⟨'2', by decide⟩⟩

/-- The first half of the number of a character that takes two. -/
def leadingCode : Code :=
  ⟨⟨'D', by decide⟩, ⟨'8', by decide⟩, ⟨'3', by decide⟩, ⟨'d', by decide⟩⟩

/-- The second half. -/
def trailingCode : Code :=
  ⟨⟨'d', by decide⟩, ⟨'e', by decide⟩, ⟨'0', by decide⟩, ⟨'0', by decide⟩⟩

/-- A single space. -/
def space : Blanks :=
  ⟨[' '], by simp⟩

/-- The object with its members the other way round, without the one that is overridden, and with
escapes and blanks. -/
def escapedSpelling : Tree :=
  .object ⟨.none, [.code letterCode], space,
      ⟨space, .string [.code leadingCode, .code trailingCode], .none⟩⟩
    [.bare (rawPieces "a") .null]

theorem spelled_letterCode : Spelled [.code letterCode] "b".toList :=
  .cons (.code letterCode rfl rfl) .nil

theorem spelled_pair : Spelled [.code leadingCode, .code trailingCode] ['😀'] := by
  have hpair : ofPair leadingCode.number trailingCode.number = '😀' := by
    decide
  exact hpair ▸ .cons (.pair leadingCode trailingCode rfl rfl) .nil

theorem spelled_face : Spelled (rawPieces "😀") ['😀'] :=
  spelled_rawPieces (by decide)

theorem respelled_plainSpelling : Respelled plainSpelling escapedSpelling := by
  have hoverridden : Respelled plainSpelling
      (.object (.bare (rawPieces "a") .null) [.bare (rawPieces "b") (.string (rawPieces "😀"))]) :=
    @Respelled.overridden _ _ [] _ _ rfl rfl ⟨_, List.mem_cons_self, rfl⟩
  have hexchange : Respelled
      (.object (.bare (rawPieces "a") .null) [.bare (rawPieces "b") (.string (rawPieces "😀"))])
      (.object (.bare (rawPieces "b") (.string (rawPieces "😀"))) [.bare (rawPieces "a") .null]) :=
    @Respelled.exchange _ _ [] _ _ _ rfl rfl (by decide)
  have hmember : Respelled
      (.object (.bare (rawPieces "b") (.string (rawPieces "😀"))) [.bare (rawPieces "a") .null])
      escapedSpelling :=
    @Respelled.member _ _ [] _ _ _ _ rfl rfl (spelled_rawPieces (by decide)) spelled_letterCode
      (.string spelled_face spelled_pair)
  exact (hoverridden.trans hexchange).trans hmember

theorem admitted_plainSpelling : plainSpelling.Admitted maxDepth := by
  have ha : Paired (rawPieces "a") := (spelled_rawPieces (by decide)).paired
  have hb : Paired (rawPieces "b") := (spelled_rawPieces (by decide)).paired
  have htokens : plainSpelling.tokens = [.string (rawPieces "a"), .string (rawPieces "a"),
      .string (rawPieces "b"), .string (rawPieces "😀")] := rfl
  refine ⟨by decide, ?_⟩
  rw [htokens]
  simp only [List.forall_mem_cons]
  exact ⟨ha, ha, hb, spelled_face.paired, by simp⟩

theorem admitted_escapedSpelling : escapedSpelling.Admitted maxDepth := by
  have ha : Paired (rawPieces "a") := (spelled_rawPieces (by decide)).paired
  have htokens : escapedSpelling.tokens = [.string [.code letterCode],
      .string [.code leadingCode, .code trailingCode], .string (rawPieces "a")] := rfl
  refine ⟨by decide, ?_⟩
  rw [htokens]
  simp only [List.forall_mem_cons]
  exact ⟨spelled_letterCode.paired, spelled_pair.paired, ha, by simp⟩

end Json.Written

/-! ## Records -/

namespace Entry

open Json Written

/-- The spelling of a record does not matter. Of two texts that are read as records and differ only in
blanks, in the order of members with different keys, in members that a later one with the same key
overrides, and in how characters of strings and keys are written, both are read as the same value. Its
compact text is a written value in which the keys of every object ascend in the order of their bytes.
So both texts give the same entry, or are dismissed alike. -/
theorem spelling_does_not_matter {text other : String} (h : Respelling text other)
    (htext : ∃ v, readRecord text = .ok v) (hother : ∃ v, readRecord other = .ok v) :
    ∃ v, readRecord text = .ok v ∧ readRecord other = .ok v ∧
      (∃ laid : Tree, laid.Writes (compact v) ∧ laid.Ordered) ∧
      ofText text = ofRecord v ∧ ofText other = ofRecord v := by
  obtain ⟨v, hv⟩ := htext
  obtain ⟨w, hw⟩ := hother
  obtain rfl := h.parse_eq (readRecord_eq_ok_iff.mp hv) (readRecord_eq_ok_iff.mp hw)
  obtain ⟨t, -, ht, -⟩ := h
  obtain ⟨-, hvalue⟩ := ht.parse_eq_ok_iff.mp (readRecord_eq_ok_iff.mp hv)
  obtain ⟨laid, hlaid, hordered⟩ := t.writtenInOrder_value
  refine ⟨v, hv, hw, ⟨laid, ⟨.none, .none, ?_⟩, hordered⟩, ?_, ?_⟩
  · rw [hlaid, hvalue, compact, String.toList_ofList]
    simp [Blanks.none]
  · rw [ofText, hv]
  · rw [ofText, hw]

/-- An overridden member, the order of the members, blanks and escapes make no difference to an
object. -/
theorem spelling_does_not_matter_object :
    ∃ v, readRecord "\x7b\"a\":true,\"a\":null,\"b\":\"😀\"\x7d" = .ok v ∧
      readRecord "\x7b\"\\u0062\" : \"\\uD83d\\ude00\",\"a\":null\x7d" = .ok v := by
  have hplain : plainSpelling.Writes "\x7b\"a\":true,\"a\":null,\"b\":\"😀\"\x7d" :=
    ⟨.none, .none, by decide⟩
  have hescaped : escapedSpelling.Writes
      "\x7b\"\\u0062\" : \"\\uD83d\\ude00\",\"a\":null\x7d" :=
    ⟨.none, .none, by decide⟩
  obtain ⟨v, hv, hw, -⟩ := spelling_does_not_matter
    ⟨plainSpelling, escapedSpelling, hplain, hescaped, respelled_plainSpelling⟩
    ⟨_, readRecord_eq_ok_iff.mpr (hplain.parse_eq_ok_iff.mpr ⟨admitted_plainSpelling, rfl⟩)⟩
    ⟨_, readRecord_eq_ok_iff.mpr (hescaped.parse_eq_ok_iff.mpr ⟨admitted_escapedSpelling, rfl⟩)⟩
  exact ⟨v, hv, hw⟩

end Entry

end DiagnosticDigest
