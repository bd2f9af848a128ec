import DiagnosticDigest.Text.Utf8
import Mathlib.Data.List.Basic

/-!
# Decoding undoes encoding

Decoding takes exactly the bytes that encoding gives: of every text, and of nothing else. Both
directions are proved a character at a time, with one lemma for each length of a sequence; bytes are
compared as numbers throughout.

## Main statements

* `Utf8.decode_eq_ok_iff` — bytes decode to a text exactly if they are the text's bytes.
* `Utf8.exists_encode_iff_of_append` — of two parts of a text's bytes both are text or neither is.
* `Utf8.mem_encode_ascii` — an ASCII byte among the bytes of a text is a character of the text.
-/

namespace DiagnosticDigest.Utf8

/-! ## Bytes of a text -/

theorem encode_ofList (cs : List Char) :
    encode (String.ofList cs) = cs.flatMap String.utf8EncodeChar := by
  rw [encode, String.toByteArray_ofList, List.utf8Encode, List.toList_data_toByteArray]

theorem encode_eq_flatMap (text : String) :
    encode text = text.toList.flatMap String.utf8EncodeChar := by
  rw [← encode_ofList, String.ofList_toList]

theorem encode_append (a b : String) : encode (a ++ b) = encode a ++ encode b := by
  simp only [encode_eq_flatMap, String.toList_append, List.flatMap_append]

/-! ## First and further bytes -/

theorem sequenceLength?_eq_one {a : UInt8} : sequenceLength? a = some 1 ↔ a.toNat ≤ 0x7F := by
  simp only [sequenceLength?, UInt8.le_iff_toNat_le, UInt8.lt_iff_toNat_lt]
  grind

theorem sequenceLength?_eq_two {a : UInt8} :
    sequenceLength? a = some 2 ↔ 0xC2 ≤ a.toNat ∧ a.toNat ≤ 0xDF := by
  simp only [sequenceLength?, UInt8.le_iff_toNat_le, UInt8.lt_iff_toNat_lt]
  grind

theorem sequenceLength?_eq_three {a : UInt8} :
    sequenceLength? a = some 3 ↔ 0xE0 ≤ a.toNat ∧ a.toNat ≤ 0xEF := by
  simp only [sequenceLength?, UInt8.le_iff_toNat_le, UInt8.lt_iff_toNat_lt]
  grind

theorem sequenceLength?_eq_four {a : UInt8} :
    sequenceLength? a = some 4 ↔ 0xF0 ≤ a.toNat ∧ a.toNat ≤ 0xF4 := by
  simp only [sequenceLength?, UInt8.le_iff_toNat_le, UInt8.lt_iff_toNat_lt]
  grind

/-- A sequence that is none of the shorter ones has four bytes. -/
theorem sequenceLength?_eq_of_ne {a : UInt8} {n : Nat} (h : sequenceLength? a = some n)
    (h1 : n ≠ 1) (h2 : n ≠ 2) (h3 : n ≠ 3) : n = 4 := by
  simp only [sequenceLength?] at h
  grind

theorem continues_iff {b : UInt8} : continues b = true ↔ 0x80 ≤ b.toNat ∧ b.toNat ≤ 0xBF := by
  simp [continues, UInt8.le_iff_toNat_le]

/-- The second byte is a continuation byte, of a narrower range behind four of the first bytes. -/
theorem mayFollow_iff {a b : UInt8} :
    mayFollow a b = true ↔ (0x80 ≤ b.toNat ∧ b.toNat ≤ 0xBF) ∧
      (a.toNat = 0xE0 → 0xA0 ≤ b.toNat) ∧ (a.toNat = 0xED → b.toNat ≤ 0x9F) ∧
      (a.toNat = 0xF0 → 0x90 ≤ b.toNat) ∧ (a.toNat = 0xF4 → b.toNat ≤ 0x8F) := by
  simp only [mayFollow, continues, ← UInt8.toNat_inj, UInt8.le_iff_toNat_le, UInt8.toNat_ofNat]
  split <;> grind

/-! ## One character -/

theorem toNat_isValidChar (c : Char) : c.toNat.isValidChar :=
  c.valid

theorem toNat_ofNat {n : Nat} (h : n.isValidChar) : (Char.ofNat n).toNat = n := by
  rw [Char.ofNat, dif_pos h]
  rfl

/-- A byte alone is a character exactly if it is ASCII. -/
theorem utf8EncodeChar_eq_one {c : Char} {a : UInt8} :
    String.utf8EncodeChar c = [a] ↔ sequenceLength? a = some 1 ∧ c = Char.ofNat a.toNat := by
  rw [sequenceLength?_eq_one]
  constructor
  · intro h
    simp only [String.utf8EncodeChar, Char.toNat_val] at h
    split at h
    · simp only [List.cons.injEq, and_true] at h
      subst h
      rw [UInt8.toNat_ofNat', Nat.mod_eq_of_lt (by omega), Char.ofNat_toNat]
      exact ⟨by assumption, rfl⟩
    · split at h
      · simp at h
      · split at h <;> simp at h
  · rintro ⟨ha, rfl⟩
    have hvalid : (Char.ofNat a.toNat).toNat = a.toNat :=
      toNat_ofNat (by simp only [Nat.isValidChar]; omega)
    rw [String.utf8EncodeChar, Char.toNat_val, hvalid, if_pos ha, UInt8.ofNat_toNat]

/-- Two bytes are a character exactly if they decode to it. -/
theorem utf8EncodeChar_eq_two {c : Char} {a b : UInt8} :
    String.utf8EncodeChar c = [a, b] ↔
      sequenceLength? a = some 2 ∧ mayFollow a b = true ∧ c = ofTwo a b := by
  rw [sequenceLength?_eq_two, mayFollow_iff]
  constructor
  · intro h
    simp only [String.utf8EncodeChar, Char.toNat_val] at h
    split at h
    · simp at h
    · split at h
      · simp only [List.cons.injEq, and_true] at h
        obtain ⟨rfl, rfl⟩ := h
        simp only [ofTwo, payload, UInt8.toNat_ofNat']
        refine ⟨by omega, by omega, ?_⟩
        rw [← Char.ofNat_toNat c]
        congr 1
        rw [Char.ofNat_toNat]
        omega
      · split at h <;> simp at h
  · rintro ⟨ha, hb, rfl⟩
    simp only [ofTwo, payload]
    generalize hn : a.toNat % 0x20 * 0x40 + b.toNat % 0x40 = n
    have hvalid : (Char.ofNat n).toNat = n := toNat_ofNat (by simp only [Nat.isValidChar]; omega)
    rw [String.utf8EncodeChar, Char.toNat_val, hvalid, if_neg (by omega), if_pos (by omega)]
    simp only [List.cons.injEq, and_true, ← UInt8.toNat_inj, UInt8.toNat_ofNat']
    omega

/-- Three bytes are a character exactly if they decode to it. -/
theorem utf8EncodeChar_eq_three {c : Char} {a b d : UInt8} :
    String.utf8EncodeChar c = [a, b, d] ↔
      sequenceLength? a = some 3 ∧ mayFollow a b = true ∧ continues d = true ∧
        c = ofThree a b d := by
  rw [sequenceLength?_eq_three, mayFollow_iff, continues_iff]
  constructor
  · intro h
    have hc := toNat_isValidChar c
    simp only [Nat.isValidChar] at hc
    simp only [String.utf8EncodeChar, Char.toNat_val] at h
    split at h
    · simp at h
    · split at h
      · simp at h
      · split at h
        · simp only [List.cons.injEq, and_true] at h
          obtain ⟨rfl, rfl, rfl⟩ := h
          simp only [ofThree, payload, UInt8.toNat_ofNat']
          refine ⟨by omega, by omega, by omega, ?_⟩
          rw [← Char.ofNat_toNat c]
          congr 1
          rw [Char.ofNat_toNat]
          omega
        · simp at h
  · rintro ⟨ha, hb, hd, rfl⟩
    simp only [ofThree, payload]
    generalize hn : a.toNat % 0x10 * 0x1000 + b.toNat % 0x40 * 0x40 + d.toNat % 0x40 = n
    have hvalid : (Char.ofNat n).toNat = n := toNat_ofNat (by simp only [Nat.isValidChar]; omega)
    rw [String.utf8EncodeChar, Char.toNat_val, hvalid, if_neg (by omega), if_neg (by omega),
      if_pos (by omega)]
    simp only [List.cons.injEq, and_true, ← UInt8.toNat_inj, UInt8.toNat_ofNat']
    omega

/-- Four bytes are a character exactly if they decode to it. -/
theorem utf8EncodeChar_eq_four {c : Char} {a b d e : UInt8} :
    String.utf8EncodeChar c = [a, b, d, e] ↔
      sequenceLength? a = some 4 ∧ mayFollow a b = true ∧ continues d = true ∧
        continues e = true ∧ c = ofFour a b d e := by
  rw [sequenceLength?_eq_four, mayFollow_iff, continues_iff, continues_iff]
  constructor
  · intro h
    have hc := toNat_isValidChar c
    simp only [Nat.isValidChar] at hc
    simp only [String.utf8EncodeChar, Char.toNat_val] at h
    split at h
    · simp at h
    · split at h
      · simp at h
      · split at h
        · simp at h
        · simp only [List.cons.injEq, and_true] at h
          obtain ⟨rfl, rfl, rfl, rfl⟩ := h
          simp only [ofFour, payload, UInt8.toNat_ofNat']
          refine ⟨by omega, by omega, by omega, by omega, ?_⟩
          rw [← Char.ofNat_toNat c]
          congr 1
          rw [Char.ofNat_toNat]
          omega
  · rintro ⟨ha, hb, hd, he, rfl⟩
    simp only [ofFour, payload]
    generalize hn : a.toNat % 0x08 * 0x40000 + b.toNat % 0x40 * 0x1000 +
      d.toNat % 0x40 * 0x40 + e.toNat % 0x40 = n
    have hvalid : (Char.ofNat n).toNat = n := toNat_ofNat (by simp only [Nat.isValidChar]; omega)
    rw [String.utf8EncodeChar, Char.toNat_val, hvalid, if_neg (by omega), if_neg (by omega),
      if_neg (by omega)]
    simp only [List.cons.injEq, and_true, ← UInt8.toNat_inj, UInt8.toNat_ofNat']
    omega

/-! ## Whole texts -/

/-- Decoding takes the bytes of a character at once. -/
theorem decodeFrom_utf8EncodeChar (index : Nat) (done : List Char) (c : Char)
    (rest : List UInt8) :
    decodeFrom index done (String.utf8EncodeChar c ++ rest) =
      decodeFrom (index + c.utf8Size) (c :: done) rest := by
  have hlength := String.length_utf8EncodeChar c
  rw [← hlength, decodeFrom.eq_def index]
  match hbytes : String.utf8EncodeChar c with
  | [] =>
    have := c.utf8Size_pos
    simp [hbytes] at hlength
    omega
  | [a] =>
    obtain ⟨ha, rfl⟩ := utf8EncodeChar_eq_one.mp hbytes
    simp [ha]
  | [a, b] =>
    obtain ⟨ha, hb, rfl⟩ := utf8EncodeChar_eq_two.mp hbytes
    simp [ha, hb]
  | [a, b, d] =>
    obtain ⟨ha, hb, hd, rfl⟩ := utf8EncodeChar_eq_three.mp hbytes
    simp [ha, hb, hd]
  | [a, b, d, e] =>
    obtain ⟨ha, hb, hd, he, rfl⟩ := utf8EncodeChar_eq_four.mp hbytes
    simp [ha, hb, hd, he]
  | _ :: _ :: _ :: _ :: _ :: _ =>
    have := c.utf8Size_le_four
    simp [hbytes] at hlength
    omega

theorem decodeFrom_flatMap (index : Nat) (done cs : List Char) :
    decodeFrom index done (cs.flatMap String.utf8EncodeChar) = .ok (done.reverse ++ cs) := by
  induction cs generalizing index done with
  | nil => simp [decodeFrom]
  | cons c cs ih =>
    rw [List.flatMap_cons, decodeFrom_utf8EncodeChar, ih, List.reverse_cons, List.append_assoc,
      List.singleton_append]

/-- Characters read behind one more character, put together with its bytes. -/
theorem exists_flatMap_cons {done read : List Char} {c : Char} {used rest : List UInt8}
    (hused : String.utf8EncodeChar c = used)
    (h : ∃ cs, read = (c :: done).reverse ++ cs ∧ rest = cs.flatMap String.utf8EncodeChar) :
    ∃ cs, read = done.reverse ++ cs ∧ used ++ rest = cs.flatMap String.utf8EncodeChar := by
  obtain ⟨cs, rfl, rfl⟩ := h
  exact ⟨c :: cs, by simp, by rw [List.flatMap_cons, hused]⟩

/-- What is decoded has the bytes that were decoded. -/
theorem eq_flatMap_of_decodeFrom {index : Nat} {done : List Char} {bytes : List UInt8}
    {read : List Char} (h : decodeFrom index done bytes = .ok read) :
    ∃ cs, read = done.reverse ++ cs ∧ bytes = cs.flatMap String.utf8EncodeChar := by
  fun_induction decodeFrom index done bytes with
  | case1 => exact ⟨[], by simpa using h.symm, rfl⟩
  | case2 index done a rest ha ih =>
    exact exists_flatMap_cons (utf8EncodeChar_eq_one.mpr ⟨ha, rfl⟩) (ih h)
  | case4 index done a ha b rest hb ih =>
    exact exists_flatMap_cons (utf8EncodeChar_eq_two.mpr ⟨ha, hb, rfl⟩) (ih h)
  | case8 index done a ha b hb d rest hd ih =>
    exact exists_flatMap_cons (utf8EncodeChar_eq_three.mpr ⟨ha, hb, hd, rfl⟩) (ih h)
  | case14 index done a n h1 h2 h3 ha b hb d hd e rest he ih =>
    obtain rfl := sequenceLength?_eq_of_ne ha h1 h2 h3
    exact exists_flatMap_cons (utf8EncodeChar_eq_four.mpr ⟨ha, hb, hd, he, rfl⟩) (ih h)
  | _ => simp at h

/-- Bytes decode to a text exactly if they are the text's bytes. -/
theorem decode_eq_ok_iff {bytes : List UInt8} {text : String} :
    decode bytes = .ok text ↔ encode text = bytes := by
  constructor
  · intro h
    cases hread : decodeFrom 0 [] bytes with
    | error fault => simp [decode, hread, Except.map] at h
    | ok read =>
      obtain ⟨cs, hcs, rfl⟩ := eq_flatMap_of_decodeFrom hread
      have htext : String.ofList read = text := by simpa [decode, hread, Except.map] using h
      rw [← htext, encode_ofList, hcs, List.reverse_nil, List.nil_append]
  · rintro rfl
    rw [decode, encode_eq_flatMap, decodeFrom_flatMap]
    simp [Except.map]

/-! ## Cutting a text -/

theorem toByteArray_eq (text : String) : text.toByteArray = ⟨(encode text).toArray⟩ := by
  rw [encode, Array.toArray_toList]

/-- Bytes of a text that are cut between two characters are the bytes of two texts. -/
theorem exists_encode_of_isValid {text : String} {a b : List UInt8} (h : encode text = a ++ b)
    (hvalid : String.Pos.Raw.IsValid text ⟨a.length⟩) :
    (∃ front, encode front = a) ∧ ∃ back, encode back = b := by
  obtain ⟨front, back, rfl, hpos⟩ := String.Pos.Raw.isValid_iff_exists_append.mp hvalid
  have hlength : (encode front).length = a.length := (congrArg String.Pos.Raw.byteIdx hpos).symm
  rw [encode_append] at h
  obtain ⟨hfront, hback⟩ := List.append_inj h hlength
  exact ⟨⟨front, hfront⟩, ⟨back, hback⟩⟩

/-- Wherever the bytes of a text are cut, both parts are the bytes of a text or neither is. -/
theorem exists_encode_iff_of_append {text : String} {a b : List UInt8}
    (h : encode text = a ++ b) : (∃ front, encode front = a) ↔ ∃ back, encode back = b := by
  have hsize : text.utf8ByteSize = a.length + b.length := by
    have hlength : (encode text).length = text.utf8ByteSize := rfl
    rw [← hlength, h, List.length_append]
  have hle : (⟨a.length⟩ : String.Pos.Raw) ≤ text.rawEndPos := by
    have hnat : a.length ≤ text.utf8ByteSize := by omega
    exact hnat
  constructor
  · rintro ⟨front, hfront⟩
    refine (exists_encode_of_isValid h ?_).2
    have hextract : text.toByteArray.extract 0 a.length = front.toByteArray := by
      rw [toByteArray_eq, toByteArray_eq front, h, hfront]
      simp [ByteArray.ext_iff]
    rw [String.Pos.Raw.isValid_iff_isValidUTF8_extract_zero, hextract]
    exact ⟨hle, front.isValidUTF8⟩
  · rintro ⟨back, hback⟩
    refine (exists_encode_of_isValid h ?_).1
    have hextract : text.toByteArray.extract a.length text.utf8ByteSize = back.toByteArray := by
      rw [toByteArray_eq, toByteArray_eq back, h, hback, hsize]
      simp [ByteArray.ext_iff]
    rw [String.Pos.Raw.isValid_iff_isValidUTF8_extract_utf8ByteSize, hextract]
    exact ⟨hle, back.isValidUTF8⟩

/-! ## ASCII -/

/-- An ASCII character is a byte. -/
theorem utf8EncodeChar_ascii {c : Char} (h : c.toNat < 0x80) :
    String.utf8EncodeChar c = [UInt8.ofNat c.toNat] := by
  rw [String.utf8EncodeChar, Char.toNat_val, if_pos (by omega)]

theorem utf8Size_ascii {c : Char} (h : c.toNat < 0x80) : c.utf8Size = 1 := by
  rw [← String.length_utf8EncodeChar, utf8EncodeChar_ascii h]
  rfl

/-- An ASCII byte among the bytes of a character is the character. -/
theorem toNat_eq_of_mem {c : Char} {b : UInt8} (hb : b.toNat < 0x80)
    (h : b ∈ String.utf8EncodeChar c) : c.toNat = b.toNat := by
  have hvalid := toNat_isValidChar c
  simp only [Nat.isValidChar] at hvalid
  simp only [String.utf8EncodeChar, Char.toNat_val] at h
  split at h
  · obtain rfl := List.mem_singleton.mp h
    rw [UInt8.toNat_ofNat']
    omega
  · -- every byte of a longer sequence is at least `0x80`
    have hlarge : 0x80 ≤ b.toNat := by
      split at h
      · simp only [List.mem_cons, List.not_mem_nil, or_false] at h
        rcases h with rfl | rfl <;> rw [UInt8.toNat_ofNat'] <;> omega
      · split at h
        · simp only [List.mem_cons, List.not_mem_nil, or_false] at h
          rcases h with rfl | rfl | rfl <;> rw [UInt8.toNat_ofNat'] <;> omega
        · simp only [List.mem_cons, List.not_mem_nil, or_false] at h
          rcases h with rfl | rfl | rfl | rfl <;> rw [UInt8.toNat_ofNat'] <;> omega
    omega

/-- An ASCII byte among the bytes of a text is a character of the text. -/
theorem mem_encode_ascii {text : String} {b : UInt8} (hb : b.toNat < 0x80)
    (h : b ∈ encode text) : ∃ c ∈ text.toList, c.toNat = b.toNat := by
  rw [encode_eq_flatMap, List.mem_flatMap] at h
  obtain ⟨c, hc, hmem⟩ := h
  exact ⟨c, hc, toNat_eq_of_mem hb hmem⟩

end DiagnosticDigest.Utf8
