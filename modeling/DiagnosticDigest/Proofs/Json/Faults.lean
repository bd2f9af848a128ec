import DiagnosticDigest.Proofs.Collection.Lines
import DiagnosticDigest.Proofs.Json.PromptDocument

/-!
# Where a text stops being JSON

A fault tells a place in a text by the bytes in front of it. If the text ends too early, it is the end;
otherwise, unless a number is out of range, no text that begins with the same bytes is JSON.

## Main definitions

* `Json.FailsAt` — how a text fails to be JSON at the place of a fault.

## Main statements

* `Json.Location.after_append` — line and column of a place.
* `Json.failsAt_of_parse` — what the place of a fault tells of a text.
* `Json.cause_of_parse_front` — how a text fails that is cut short.
-/

namespace DiagnosticDigest.Json

open Intake (lineFeed Closed)
open Utf8 (encode size)

/-! ## Places -/

namespace Location

theorem next_lineFeed (place : Location) : place.next lineFeed = ⟨place.line + 1, 0⟩ := rfl

theorem next_of_ne {b : UInt8} (hb : b ≠ lineFeed) (place : Location) :
    place.next b = ⟨place.line, place.column + 1⟩ :=
  if_neg hb

/-- Each line feed begins a line. -/
theorem line_foldl (place : Location) (bytes : List UInt8) :
    (bytes.foldl next place).line = place.line + bytes.count lineFeed := by
  induction bytes generalizing place with
  | nil => rfl
  | cons b bytes ih =>
    rw [List.foldl_cons, ih]
    by_cases hb : b = lineFeed
    · rw [hb, next_lineFeed, List.count_cons_self]
      dsimp only
      omega
    · rw [next_of_ne hb, List.count_cons_of_ne hb]

/-- Other bytes lie on their line. -/
theorem foldl_of_notMem {bytes : List UInt8} (h : lineFeed ∉ bytes) (place : Location) :
    bytes.foldl next place = ⟨place.line, place.column + bytes.length⟩ := by
  induction bytes generalizing place with
  | nil => rfl
  | cons b bytes ih =>
    rw [List.mem_cons, not_or] at h
    rw [List.foldl_cons, next_of_ne (Ne.symm h.1), ih h.2, List.length_cons]
    simp only [Location.mk.injEq, true_and]
    omega

/-- Behind closed bytes a line begins. -/
theorem after_closed {closed : List UInt8} (h : Closed closed) :
    after closed = ⟨1 + closed.count lineFeed, 0⟩ := by
  rcases h with rfl | hlast
  · rfl
  · obtain ⟨init, rfl⟩ := List.getLast?_eq_some_iff.mp hlast
    rw [after, List.foldl_append, List.foldl_cons, List.foldl_nil, next_lineFeed, line_foldl,
      List.count_append, List.count_singleton_self, Nat.add_assoc]
    rfl

/-- The line of a place is counted by the line feeds in front of it, its column from behind the last of
them. -/
theorem after_append {closed behind : List UInt8} (hclosed : Closed closed)
    (hbehind : lineFeed ∉ behind) :
    after (closed ++ behind) = ⟨1 + (closed ++ behind).count lineFeed, behind.length⟩ := by
  have hsplit : after (closed ++ behind) = behind.foldl next (after closed) :=
    List.foldl_append
  rw [hsplit, after_closed hclosed, foldl_of_notMem hbehind, List.count_append,
    List.count_eq_zero_of_not_mem hbehind, Nat.zero_add, Nat.add_zero]

end Location

/-! ## Causes -/

/-- The faults of a text that ends too early are those that say so. -/
theorem Cause.isEnd_iff {cause : Cause} :
    cause.isEnd = true ↔ "EOF while parsing".toList <+: cause.message.toList := by
  cases cause <;> decide

theorem Cause.eq_numberOutOfRange_iff {cause : Cause} :
    cause = .numberOutOfRange ↔ cause.message = "number out of range" := by
  cases cause <;> decide

/-! ## Texts -/

theorem length_encode (text : String) : (encode text).length = size text.toList := by
  rw [Utf8.encode_eq_flatMap, length_flatMap_utf8EncodeChar]

theorem Fault.offset_le (fault : Fault) (text : String) :
    fault.offset text ≤ (encode text).length :=
  Nat.sub_le _ _

/-- Texts that begin with the bytes in front of a fault share them. -/
theorem shares_of_take {fault : Fault} {text other : String}
    (hleft : fault.left ≤ (encode text).length)
    (h : (encode text).take (fault.offset text) <+: encode other) :
    Shares fault.left text.toList other.toList := by
  obtain ⟨more, hmore⟩ := h
  rw [Utf8.encode_eq_flatMap other] at hmore
  refine ⟨(encode text).take (fault.offset text), (encode text).drop (fault.offset text), more,
    ?_, ?_, hmore.symm⟩
  · rw [List.take_append_drop, Utf8.encode_eq_flatMap]
  · rw [List.length_drop, Fault.offset]
    omega

variable {text : String} {fault : Fault}

theorem readWholeText_of_parse (h : parse text = .error fault) :
    readWholeText text.toList = .error fault := by
  rw [parse, parseChars_eq] at h
  cases hread : readWholeText text.toList with
  | ok found => simp [hread, Except.map] at h
  | error found => simpa [hread, Except.map] using h

/-- How a text fails to be JSON: it ends too early, or a number is out of range, or no text is JSON that
shares what is in front of the fault. -/
inductive FailsAt (text : String) (fault : Fault) : Prop
  | ended (hcause : fault.cause.isEnd = true) (hoffset : fault.offset text = (encode text).length)
  | outOfRange (hcause : fault.cause = .numberOutOfRange) (hoffset : 1 ≤ fault.offset text)
  | refused (hcause : fault.cause.isEnd = false) (hoffset : 1 ≤ fault.offset text)
      (hrefuses : ∀ other v, (encode text).take (fault.offset text) <+: encode other →
        parse other ≠ .ok v)

theorem failsAt_of_parse (h : parse text = .error fault) : FailsAt text fault := by
  have hread := readWholeText_of_parse h
  have hlength := length_encode text
  cases prompt_readWholeText text.toList with
  | given hgiven =>
    rw [hread] at hgiven
    simp at hgiven
  | ended hfault hcause hleft =>
    obtain rfl := Except.error.inj (hread.symm.trans hfault)
    exact .ended hcause (by rw [Fault.offset, hleft, Nat.sub_zero])
  | outOfRange hfault hcause hleft =>
    obtain rfl := Except.error.inj (hread.symm.trans hfault)
    refine .outOfRange hcause ?_
    rw [Fault.offset]
    omega
  | refused hfault hcause hleft hrefuses =>
    obtain rfl := Except.error.inj (hread.symm.trans hfault)
    refine .refused hcause ?_ ?_
    · rw [Fault.offset]
      omega
    · intro other v hother hv
      rw [parse, parseChars_eq] at hv
      cases hread : readWholeText other.toList with
      | error found => simp [hread, Except.map] at hv
      | ok found => exact hrefuses _ (shares_of_take (by omega) hother) found hread

/-- In a text that is not empty a fault stands behind some byte. -/
theorem offset_pos_of_parse (h : parse text = .error fault) (hne : text ≠ "") :
    1 ≤ fault.offset text := by
  cases failsAt_of_parse h with
  | ended hcause hoffset =>
    rw [hoffset]
    exact List.length_pos_of_ne_nil fun hnil => hne (Utf8.encode_injective hnil)
  | outOfRange hcause hoffset => exact hoffset
  | refused hcause hoffset => exact hoffset

/-- What JSON begins with is JSON, ends too early, or has a number that is out of range. -/
theorem cause_of_parse_front {front back : String} {v : Json} (hwhole : parse (front ++ back) = .ok v)
    (hfront : parse front = .error fault) :
    fault.cause.isEnd = true ∨ fault.cause = .numberOutOfRange := by
  cases failsAt_of_parse hfront with
  | ended hcause => exact .inl hcause
  | outOfRange hcause => exact .inr hcause
  | refused hcause hoffset hrefuses =>
    -- the whole text begins with what is in front of the fault
    have hbeginning : (encode front).take (fault.offset front) <+: encode (front ++ back) := by
      rw [Utf8.encode_append]
      exact (List.take_prefix _ _).trans (List.prefix_append _ _)
    exact absurd hwhole (hrefuses _ _ hbeginning)

end DiagnosticDigest.Json
